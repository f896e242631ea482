/-
This file models `RpcBase`: the server side, which binds handlers and routes
calls to them, and the client side, which sends calls and hands replies to the
callbacks that wait for them.

Code from outside -- the overriding `sendMsg`, a callback, a handler -- is always
the last thing an operation runs. An operation therefore ends in at most one such
call, which is its `Ending`: when the outside code starts, the object is already
in the state the operation leaves it in, and whatever that code issues are
further operations on that state.
-/

import RpcInstance.Data
import RpcInstance.IdWorker
import RpcInstance.Invoker

namespace RpcInstance

open Msgpack Code

/-- The members of an `RpcBase` but the id generator, which may be shared. -/
structure RpcBase (Env : Type) where
  functionMap : Std.HashMap CallType (Wrapper Env) := ∅
  rpcid : UInt64 := 0
  callbackMap : Std.HashMap UInt64 (SharedPtr (RpcCB Env)) := ∅

/-- What an operation does last. -/
inductive Ending (Env : Type) where
  /-- Nothing is called. -/
  | idle
  /-- A frame was built and goes out of scope. -/
  | dropped (msg : RpcMsg)
  | sendMsg (msg : RpcMsg) (size : UInt32)
  | callback (target : SharedPtr (RpcCB Env)) (data : List UInt8)
  | handler (wrapper : Wrapper Env) (data : List UInt8)

variable {Env Generator Input : Type}

/-- Running the code that an operation ends in, with the `sendMsg` of the object's class. A
handler computes a result. -/
def Ending.perform (sendMsg : RpcMsg → UInt32 → Code Env Unit) :
    Ending Env → Code Env (Option String)
  | .idle => return none
  | .dropped _ => return none
  | .sendMsg msg size => do
    sendMsg msg size
    return none
  | .callback target data => do
    target.object.cb data
    return none
  | .handler wrapper data => do
    let result ← wrapper data
    return some result

namespace RpcBase

/-! ### The server side -/

/-- All four overloads of `bind`. -/
def bind (self : RpcBase Env) (type : CallType) (binding : Binding Env) : RpcBase Env :=
  { self with functionMap := self.functionMap.insert type binding.wrapper }

/-- Where a table describes what is bound to each type, binding updates the table. -/
theorem functionMap_bind {self : RpcBase Env} {Bound : CallType → Type*}
    {table : (type : CallType) → Option (Bound type)}
    {binding : (type : CallType) → Bound type → Binding Env}
    (described : ∀ type, self.functionMap[type]? =
      (table type).map fun bound => (binding type bound).wrapper)
    (type : CallType) (bound : Bound type) (other : CallType) :
    (self.bind type (binding type bound)).functionMap[other]? =
      (Function.update table type (some bound) other).map
        fun bound => (binding other bound).wrapper := by
  show (self.functionMap.insert type _)[other]? = _
  rw [Std.HashMap.getElem?_insert, described]
  by_cases same : type = other
  · subst same
    rw [Function.update_self, if_pos (beq_self_eq_true type)]
    rfl
  · rw [Function.update_of_ne (Ne.symm same), if_neg (mt beq_iff_eq.mp same)]

/-- Finds the handler for a message and copies the declared size of its data. -/
def dispatch (self : RpcBase Env) (msg : Option RpcMsg) : Except Failure (Ending Env) :=
  match msg with
  | none => .ok .idle
  | some msg =>
    match self.functionMap[CallType.mk msg.type]? with
    | none => .ok .idle
    | some wrapper => do
      let cmd ← copyData msg.data msg.size
      return .handler wrapper cmd

/-- The result is dropped. -/
def route (self : RpcBase Env) (msg : Option RpcMsg) : Except Failure (Ending Env) :=
  self.dispatch msg

/-- The result is printed. -/
def testLocalDataCall (self : RpcBase Env) (msg : Option RpcMsg) : Except Failure (Ending Env) :=
  self.dispatch msg

/-- The handler of the type is invoked on the packed arguments, without a message. -/
def testLocalCall (self : RpcBase Env) (type : CallType) (args : List Packed) :
    Except Failure (Ending Env) :=
  match self.functionMap[type]? with
  | none => .ok .idle
  | some wrapper => do
    let msg ← (packArgs args).mapError .thrown
    return .handler wrapper msg

/-- Hands a reply to the callback it is for. Nothing is removed from the map. -/
def dealResult (self : RpcBase Env) (retMsg : Option RpcResultMsg) : Except Failure (Ending Env) :=
  match retMsg with
  | none => .ok .idle
  | some retMsg =>
    if retMsg.state = 0 then .ok .idle
    else
      match self.callbackMap[retMsg.rpcid.toUInt64]? with
      | none => .ok .idle
      | some target => do
        let data ← copyData retMsg.data retMsg.size
        return .callback target (cStr data)

end RpcBase

/-! ### The client side -/

/-- What an operation of the client side works on: the object, the generator it shares, and the
number of allocations so far. -/
structure Client (Generator Env : Type) where
  self : RpcBase Env
  idWorker : Generator
  allocated : ℕ

namespace Client

variable [IdGenerator Generator Input]

/-- The id that the next call draws. -/
def nextId (client : Client Generator Env) (reading : Input) : UInt64 :=
  (IdGenerator.genId client.idWorker reading).1

/-- The client after drawing an id. -/
def drawn (client : Client Generator Env) (reading : Input) : Client Generator Env :=
  { client with
    self := { client.self with rpcid := client.nextId reading }
    idWorker := (IdGenerator.genId client.idWorker reading).2 }

/-- The callback object that the next registration allocates. -/
def nextCallback (client : Client Generator Env) (object : RpcCB Env) : SharedPtr (RpcCB Env) :=
  ⟨client.allocated, object⟩

/-- The client after registering a callback under an id. An entry that is there stays. -/
def registered (client : Client Generator Env) (id : UInt64) (object : RpcCB Env) :
    Client Generator Env :=
  { client with
    self := { client.self with
      callbackMap := client.self.callbackMap.insertIfNew id (client.nextCallback object) }
    allocated := client.allocated + 1 }

/-- `rpcid = idWorker->genId()`. -/
def genId (reading : Input) : Code (Client Generator Env) UInt64 := do
  let client ← get
  set (client.drawn reading)
  return client.nextId reading

/-- `callbackMap.emplace(id, std::make_shared<RpcCB>(...))`. -/
def emplace (id : UInt64) (object : RpcCB Env) : Code (Client Generator Env) Unit := do
  let client ← get
  set (client.registered id object)

/-- Building a frame in a fresh buffer: the fields of the header, and a copy of the payload. -/
def createMsg (id : UInt64) (type : CallType) (payload : List UInt8) : Except Failure RpcMsg :=
  match (FixedBuffer.zero dataCapacity).write payload with
  | some data =>
    .ok { rpcid := id.toUInt32, type := type.value, size := UInt32.ofNat payload.length, data }
  | none => .error (.undefined .bufferOverflow)

/-- The call is handled by the object itself. -/
def call (reading : Input) (type : CallType) (args : List Packed) :
    Code (Client Generator Env) (Ending Env) := do
  let _ ← genId reading
  let client ← get
  match client.self.functionMap[type]? with
  | none => return .idle
  | some wrapper => do
    let msg ← ofResult ((packArgs args).mapError .thrown)
    return .handler wrapper msg

/-- A call with the bytes of a command. The message is not sent. -/
def callCmd (reading : Input) (type : CallType) (cmd : CmdPointer) (cmdSize : UInt64) :
    Code (Client Generator Env) (Ending Env) :=
  match cmd with
  | none => return .idle
  | some _ => do
    let id ← genId reading
    let payload ← ofResult (cmd.read cmdSize)
    let send ← ofResult (createMsg id type payload)
    return .dropped send

/-- A call with packed arguments, whose callback is stored before they are packed. -/
def callCb (reading : Input) (type : CallType) (cb : Callback Env) (args : List Packed)
    (timeout : UInt32) : Code (Client Generator Env) (Ending Env) := do
  let id ← genId reading
  emplace id { cb, timeout := timeout.toUInt64 }
  let msg ← ofResult ((packArgs args).mapError .thrown)
  let send ← ofResult (createMsg id type msg)
  return .sendMsg send send.getSize

/-- A call with the bytes of a command, whose callback is stored. The message is not sent. -/
def callCbCmd (reading : Input) (type : CallType) (cb : Callback Env) (cmd : CmdPointer)
    (cmdSize : UInt64) (timeout : UInt32) : Code (Client Generator Env) (Ending Env) := do
  let id ← genId reading
  emplace id { cb, timeout := timeout.toUInt64 }
  let payload ← ofResult (cmd.read cmdSize)
  let send ← ofResult (createMsg id type payload)
  return .dropped send

/-- A callback stored under an id that the caller chooses. -/
def testRegisterCB (cbId : UInt64) (func : Callback Env) :
    Code (Client Generator Env) (Ending Env) := do
  emplace cbId { cb := func, timeout := 0 }
  return .idle

/-! ### What an operation does -/

section

variable (client : Client Generator Env)

@[simp] theorem exec_genId (reading : Input) :
    exec (genId reading) client = (.ok (client.nextId reading), client.drawn reading) := rfl

@[simp] theorem exec_emplace (id : UInt64) (object : RpcCB Env) :
    exec (emplace id object) client = (.ok (), client.registered id object) := rfl

@[simp] theorem exec_get :
    exec (get : Code (Client Generator Env) (Client Generator Env)) client = (.ok client, client) :=
  rfl

/-- `call` draws an id that nothing carries, and then does what `testLocalCall` does. -/
theorem exec_call (reading : Input) (type : CallType) (args : List Packed) :
    exec (call reading type args) client =
      (client.self.testLocalCall type args, client.drawn reading) := by
  rw [call, exec_bind, exec_genId]
  show exec (get >>= _) (client.drawn reading) = _
  rw [exec_bind, exec_get]
  show exec (match client.self.functionMap[type]? with | none => _ | some wrapper => _) _ = _
  rw [RpcBase.testLocalCall]
  rcases client.self.functionMap[type]? with _ | wrapper
  · rfl
  · show exec (ofResult _ >>= _) _ = _
    rw [exec_bind, exec_ofResult]
    rcases (packArgs args).mapError Failure.thrown with failure | msg <;> rfl

/-- Both a payload that cannot be had and one that does not fit end an operation. -/
theorem exec_frame (payload : Except Failure (List UInt8)) (id : UInt64) (type : CallType)
    (ending : RpcMsg → Ending Env) :
    exec (do
      let bytes ← ofResult payload
      let send ← ofResult (createMsg id type bytes)
      return ending send) client = ((payload >>= createMsg id type).map ending, client) := by
  rw [exec_bind, exec_ofResult]
  rcases payload with failure | bytes
  · rfl
  · show exec (ofResult (createMsg id type bytes) >>= _) client = _
    rw [exec_bind, exec_ofResult]
    show _ = ((createMsg id type bytes).map ending, client)
    rcases createMsg id type bytes with failure | send <;> rfl

theorem exec_callCmd (reading : Input) (type : CallType) (memory : ℕ → UInt8) (cmdSize : UInt64) :
    exec (callCmd reading type (some memory) cmdSize) client =
      ((CmdPointer.read (some memory) cmdSize >>= createMsg (client.nextId reading) type).map
        .dropped, client.drawn reading) := by
  rw [callCmd, exec_bind, exec_genId]
  exact exec_frame (client.drawn reading) _ _ _ _

theorem exec_callCb (reading : Input) (type : CallType) (cb : Callback Env) (args : List Packed)
    (timeout : UInt32) :
    exec (callCb reading type cb args timeout) client =
      (((packArgs args).mapError .thrown >>= createMsg (client.nextId reading) type).map
        fun send => .sendMsg send send.getSize,
        (client.drawn reading).registered (client.nextId reading)
          { cb, timeout := timeout.toUInt64 }) := by
  rw [callCb, exec_bind, exec_genId]
  show exec (emplace _ _ >>= _) _ = _
  rw [exec_bind, exec_emplace]
  exact exec_frame _ _ _ _ _

theorem exec_callCbCmd (reading : Input) (type : CallType) (cb : Callback Env) (cmd : CmdPointer)
    (cmdSize : UInt64) (timeout : UInt32) :
    exec (callCbCmd reading type cb cmd cmdSize timeout) client =
      ((cmd.read cmdSize >>= createMsg (client.nextId reading) type).map .dropped,
        (client.drawn reading).registered (client.nextId reading)
          { cb, timeout := timeout.toUInt64 }) := by
  rw [callCbCmd, exec_bind, exec_genId]
  show exec (emplace _ _ >>= _) _ = _
  rw [exec_bind, exec_emplace]
  exact exec_frame _ _ _ _ _

end

/-! ### Frames -/

/-- A frame that carries a payload: the header says what it is, and the payload is read back by
the size in the header. -/
structure Carries (msg : RpcMsg) (id : UInt64) (type : CallType) (payload : List UInt8) : Prop where
  rpcid : msg.rpcid = id.toUInt32
  type : msg.type = type.value
  size : msg.size.toNat = payload.length
  getSize : msg.getSize.toNat = headerSize + payload.length
  data : copyData msg.data msg.size = .ok payload

/-- A payload that fits makes a frame that carries it. -/
theorem createMsg_of_fits (id : UInt64) (type : CallType) {payload : List UInt8}
    (fits : payload.length ≤ dataCapacity) :
    ∃ msg, createMsg id type payload = .ok msg ∧ Carries msg id type payload := by
  obtain ⟨data, written, back⟩ := FixedBuffer.write_isSome (FixedBuffer.zero dataCapacity) fits
  have small : payload.length ≤ 65524 := dataCapacity_eq ▸ fits
  have size : (UInt32.ofNat payload.length).toNat = payload.length :=
    UInt32.toNat_ofNat_of_lt (small.trans_lt (by decide))
  refine ⟨_, by rw [createMsg, written], rfl, rfl, size, ?_, ?_⟩
  · rw [RpcMsg.getSize, UInt32.toNat_add, size]
    show (12 + payload.length) % 2 ^ 32 = 12 + payload.length
    omega
  · rw [copyData, size, back]

theorem createMsg_rpcid {id : UInt64} {type : CallType} {payload : List UInt8} {msg : RpcMsg}
    (created : createMsg id type payload = .ok msg) : msg.rpcid = id.toUInt32 := by
  rw [createMsg] at created
  split at created
  · obtain rfl := Except.ok.inj created
    rfl
  · cases created

/-- A payload that does not fit is written past the end of the buffer. -/
theorem createMsg_of_not_fits (id : UInt64) (type : CallType) {payload : List UInt8}
    (long : dataCapacity < payload.length) :
    createMsg id type payload = .error (.undefined .bufferOverflow) := by
  rw [createMsg, (FixedBuffer.write_eq_none_iff _ _).mpr long]

/-- A payload that can be had and fits ends in a frame that carries it. -/
theorem frame_of_fits {payload : Except Failure (List UInt8)} {bytes : List UInt8}
    (had : payload = .ok bytes) (fits : bytes.length ≤ dataCapacity) (id : UInt64)
    (type : CallType) (ending : RpcMsg → Ending Env) :
    ∃ send, (payload >>= createMsg id type).map ending = .ok (ending send) ∧
      Carries send id type bytes := by
  obtain ⟨send, created, carries⟩ := createMsg_of_fits id type fits
  refine ⟨send, map_eq_ok_iff.mpr ⟨send, ?_, rfl⟩, carries⟩
  exact bind_eq_ok_iff.mpr ⟨bytes, had, created⟩

/-- What `callCb` hands to `sendMsg`. -/
theorem callCb_sends (client : Client Generator Env) (reading : Input) (type : CallType)
    (cb : Callback Env) {args : List Packed} (timeout : UInt32) {bytes : List UInt8}
    (packed : packArgs args = .ok bytes) (fits : bytes.length ≤ dataCapacity) :
    ∃ send, (exec (callCb reading type cb args timeout) client).1 =
        .ok (.sendMsg send send.getSize) ∧ Carries send (client.nextId reading) type bytes := by
  rw [exec_callCb]
  exact frame_of_fits (mapError_eq_ok_iff.mpr packed) fits _ _ _

end Client

end RpcInstance
