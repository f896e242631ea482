/-
This file models a set of `RpcBase` objects that share one id generator, and the
runs of their client sides: any operations on any of the objects in any order.

An operation that calls code from outside leaves it running, and what is issued
while it runs -- a further call from inside a callback, a reply that arrives
while `sendMsg` waits -- is a step like any other. A run is a list of steps. What
is proved about the steps is one lemma for each part of the world.

A run of the program ends with a step that is undefined, if there is one. What is
proved here holds of every list of steps, and so of those that end like this.
-/

import RpcInstance.Library.Runs
import RpcInstance.Base

namespace RpcInstance

open Runs Code Msgpack

/-- An operation on the client side of an object, with the reading its id generator makes. -/
inductive Operation (Input Env : Type) where
  | call (reading : Input) (type : CallType) (args : List Packed)
  | callCmd (reading : Input) (type : CallType) (cmd : CmdPointer) (cmdSize : UInt64)
  | callCb (reading : Input) (type : CallType) (cb : Callback Env) (args : List Packed)
      (timeout : UInt32)
  | callCbCmd (reading : Input) (type : CallType) (cb : Callback Env) (cmd : CmdPointer)
      (cmdSize : UInt64) (timeout : UInt32)
  | dealResult (retMsg : Option RpcResultMsg)

/-- A step of a run: an operation on one of the objects, or the end of the code from outside that
was called last. -/
inductive Act (Object Input Env : Type) where
  | issue (object : Object) (operation : Operation Input Env)
  | finish

/-- The objects, their generator, the number of allocations so far, and the code from outside that
is running, the innermost first. -/
structure World (Object Generator Env : Type) where
  objects : Object → RpcBase Env
  idWorker : Generator
  allocated : ℕ
  running : List (Ending Env)

variable {Object Generator Input Env : Type} [IdGenerator Generator Input]

namespace Operation

/-- The operation of the source. -/
def run : Operation Input Env → Code (Client Generator Env) (Ending Env)
  | .call reading type args => Client.call reading type args
  | .callCmd reading type cmd cmdSize => Client.callCmd reading type cmd cmdSize
  | .callCb reading type cb args timeout => Client.callCb reading type cb args timeout
  | .callCbCmd reading type cb cmd cmdSize timeout =>
    Client.callCbCmd reading type cb cmd cmdSize timeout
  | .dealResult retMsg => do
    let client ← get
    ofResult (client.self.dealResult retMsg)

/-- The reading of an operation that draws an id. -/
def reading : Operation Input Env → Option Input
  | .call reading _ _ => some reading
  | .callCmd _ _ none _ => none
  | .callCmd reading _ (some _) _ => some reading
  | .callCb reading _ _ _ _ => some reading
  | .callCbCmd reading _ _ _ _ _ => some reading
  | .dealResult _ => none

/-- The callback that an operation registers, with the reading its id is drawn by. -/
def registers : Operation Input Env → Option (Input × RpcCB Env)
  | .callCb reading _ cb _ timeout => some (reading, { cb, timeout := timeout.toUInt64 })
  | .callCbCmd reading _ cb _ _ timeout => some (reading, { cb, timeout := timeout.toUInt64 })
  | _ => none

/-- The client that an operation leaves behind. -/
def after (operation : Operation Input Env) (client : Client Generator Env) :
    Client Generator Env :=
  match operation.registers, operation.reading with
  | some (reading, object), _ =>
    (client.drawn reading).registered (client.nextId reading) object
  | none, some reading => client.drawn reading
  | none, none => client

/-- How an operation ends. -/
def result (operation : Operation Input Env) (client : Client Generator Env) :
    Except Failure (Ending Env) :=
  match operation with
  | .call _ type args => client.self.testLocalCall type args
  | .callCmd _ _ none _ => .ok .idle
  | .callCmd reading type (some memory) cmdSize =>
    (CmdPointer.read (some memory) cmdSize >>=
      Client.createMsg (client.nextId reading) type).map .dropped
  | .callCb reading type _ args _ =>
    ((packArgs args).mapError .thrown >>= Client.createMsg (client.nextId reading) type).map
      fun send => .sendMsg send send.getSize
  | .callCbCmd reading type _ cmd cmdSize _ =>
    (cmd.read cmdSize >>= Client.createMsg (client.nextId reading) type).map .dropped
  | .dealResult retMsg => client.self.dealResult retMsg

theorem exec_run (operation : Operation Input Env) (client : Client Generator Env) :
    exec operation.run client = (operation.result client, operation.after client) := by
  cases operation with
  | call reading type args => exact Client.exec_call client reading type args
  | callCmd reading type cmd cmdSize =>
    cases cmd with
    | none => rfl
    | some memory => exact Client.exec_callCmd client reading type memory cmdSize
  | callCb reading type cb args timeout =>
    exact Client.exec_callCb client reading type cb args timeout
  | callCbCmd reading type cb cmd cmdSize timeout =>
    exact Client.exec_callCbCmd client reading type cb cmd cmdSize timeout
  | dealResult retMsg => rfl

/-- What an operation can end in. Only `callCb` hands a frame over, and only `dealResult` invokes
a callback. -/
theorem result_cases {operation : Operation Input Env} {client : Client Generator Env}
    {ending : Ending Env} (ends : operation.result client = .ok ending) :
    ending = .idle ∨ (∃ msg, ending = .dropped msg) ∨
    (∃ wrapper data, ending = .handler wrapper data) ∨
    (∃ reading type cb args timeout send, operation = .callCb reading type cb args timeout ∧
      send.rpcid = (client.nextId reading).toUInt32 ∧ ending = .sendMsg send send.getSize) ∨
    ∃ msg target data, operation = .dealResult (some msg) ∧ msg.state ≠ 0 ∧
      ending = .callback target data := by
  cases operation with
  | call reading type args =>
    change client.self.testLocalCall type args = .ok ending at ends
    rw [RpcBase.testLocalCall] at ends
    split at ends
    · exact Or.inl (Except.ok.inj ends).symm
    · obtain ⟨msg, -, same⟩ := bind_eq_ok_iff.mp ends
      exact Or.inr (Or.inr (Or.inl ⟨_, msg, (Except.ok.inj same).symm⟩))
  | callCmd reading type cmd cmdSize =>
    cases cmd with
    | none => exact Or.inl (Except.ok.inj ends).symm
    | some memory =>
      obtain ⟨send, -, same⟩ := map_eq_ok_iff.mp ends
      exact Or.inr (Or.inl ⟨send, same.symm⟩)
  | callCb reading type cb args timeout =>
    obtain ⟨send, framed, same⟩ := map_eq_ok_iff.mp ends
    obtain ⟨payload, -, created⟩ := bind_eq_ok_iff.mp framed
    exact Or.inr (Or.inr (Or.inr (Or.inl ⟨reading, type, cb, args, timeout, send, rfl,
      Client.createMsg_rpcid created, same.symm⟩)))
  | callCbCmd reading type cb cmd cmdSize timeout =>
    obtain ⟨send, -, same⟩ := map_eq_ok_iff.mp ends
    exact Or.inr (Or.inl ⟨send, same.symm⟩)
  | dealResult retMsg =>
    change client.self.dealResult retMsg = .ok ending at ends
    unfold RpcBase.dealResult at ends
    split at ends
    · exact Or.inl (Except.ok.inj ends).symm
    · next msg =>
      split at ends
      · exact Or.inl (Except.ok.inj ends).symm
      · next success =>
        split at ends
        · exact Or.inl (Except.ok.inj ends).symm
        · next target _ =>
          obtain ⟨data, -, same⟩ := bind_eq_ok_iff.mp ends
          exact Or.inr (Or.inr (Or.inr (Or.inr ⟨msg, target, cStr data, rfl, success,
            (Except.ok.inj same).symm⟩)))

theorem reading_of_registers {operation : Operation Input Env} {reading : Input}
    {object : RpcCB Env} (registers : operation.registers = some (reading, object)) :
    operation.reading = some reading := by
  cases operation with
  | callCb reading type cb args timeout => exact congrArg (Option.map Prod.fst) registers
  | callCbCmd reading type cb cmd cmdSize timeout =>
    exact congrArg (Option.map Prod.fst) registers
  | _ => cases registers

end Operation

namespace World

/-- What an operation on an object works on. -/
def client (world : World Object Generator Env) (object : Object) : Client Generator Env :=
  ⟨world.objects object, world.idWorker, world.allocated⟩

/-- The code from outside that an operation leaves running. -/
def called : Except Failure (Ending Env) → List (Ending Env)
  | .ok (.sendMsg msg size) => [.sendMsg msg size]
  | .ok (.callback target data) => [.callback target data]
  | .ok (.handler wrapper data) => [.handler wrapper data]
  | _ => []

/-- How a step ends. -/
def ending (world : World Object Generator Env) : Act Object Input Env → Except Failure (Ending Env)
  | .issue object operation => (exec operation.run (world.client object)).1
  | .finish => .ok .idle

/-- A step that hands a frame over is a `callCb`, and the frame carries the low half of its id. -/
theorem callCb_of_sendMsg {world : World Object Generator Env} {act : Act Object Input Env}
    {frame : RpcMsg} {size : UInt32} (ends : world.ending act = .ok (.sendMsg frame size)) :
    ∃ object reading type cb args timeout,
      act = .issue object (.callCb reading type cb args timeout) ∧
      frame.rpcid = ((world.client object).nextId reading).toUInt32 := by
  cases act with
  | finish => cases ends
  | issue object operation =>
    change (exec operation.run (world.client object)).1 = _ at ends
    rw [Operation.exec_run] at ends
    obtain same | ⟨_, same⟩ | ⟨_, _, same⟩ | sent | ⟨_, _, _, -, -, same⟩ :=
      Operation.result_cases ends
    · cases same
    · cases same
    · cases same
    · obtain ⟨reading, type, cb, args, timeout, send, rfl, low, same⟩ := sent
      obtain ⟨rfl, -⟩ := Ending.sendMsg.inj same
      exact ⟨object, reading, type, cb, args, timeout, rfl, low⟩
    · cases same

/-- A step that invokes a callback is a successful reply. -/
theorem dealResult_of_callback {world : World Object Generator Env} {act : Act Object Input Env}
    {target : SharedPtr (RpcCB Env)} {data : List UInt8}
    (ends : world.ending act = .ok (.callback target data)) :
    ∃ object msg, act = .issue object (.dealResult (some msg)) ∧ msg.state ≠ 0 := by
  cases act with
  | finish => cases ends
  | issue object operation =>
    change (exec operation.run (world.client object)).1 = _ at ends
    rw [Operation.exec_run] at ends
    obtain same | ⟨_, same⟩ | ⟨_, _, same⟩ | ⟨_, _, _, _, _, _, -, -, same⟩ | replied :=
      Operation.result_cases ends
    · cases same
    · cases same
    · cases same
    · cases same
    · obtain ⟨msg, -, -, rfl, success, -⟩ := replied
      exact ⟨object, msg, rfl, success⟩

variable [DecidableEq Object]

/-- An operation changes its own object and the generator, and may leave code from outside running.
Where it is undefined nothing is promised about the world behind it: a run of the program ends with
such a step. -/
def step (world : World Object Generator Env) :
    Act Object Input Env → World Object Generator Env
  | .issue object operation =>
    let (result, client) := exec operation.run (world.client object)
    { objects := Function.update world.objects object client.self
      idWorker := client.idWorker
      allocated := client.allocated
      running := called result ++ world.running }
  | .finish => { world with running := world.running.tail }

/-- Objects with handlers bound and nothing called yet. -/
def start (functionMap : Object → Std.HashMap CallType (Wrapper Env)) (idWorker : Generator) :
    World Object Generator Env where
  objects object := { functionMap := functionMap object }
  idWorker
  allocated := 0
  running := []

end World

/-! ### What a step does -/

/-- A callback that was registered: on which object, under which id, and the callback object. -/
structure Registration (Object Env : Type) where
  object : Object
  id : UInt64
  target : SharedPtr (RpcCB Env)

namespace World

/-- The reading that a step draws an id by. -/
def reading : Act Object Input Env → Option Input
  | .issue _ operation => operation.reading
  | .finish => none

/-- The id that a step draws. -/
def draws (world : World Object Generator Env) (act : Act Object Input Env) : Option UInt64 :=
  (reading act).map fun reading => (IdGenerator.genId world.idWorker reading).1

/-- The callback that a step registers. -/
def registers (world : World Object Generator Env) :
    Act Object Input Env → Option (Registration Object Env)
  | .issue object operation =>
    operation.registers.map fun registered =>
      { object
        id := (IdGenerator.genId world.idWorker registered.1).1
        target := ⟨world.allocated, registered.2⟩ }
  | .finish => none

/-- What a step registers is drawn by it. -/
theorem draws_of_registers {world : World Object Generator Env} {act : Act Object Input Env}
    {registered : Registration Object Env} (registers : world.registers act = some registered) :
    world.draws act = some registered.id := by
  cases act with
  | finish => cases registers
  | issue object operation =>
    obtain ⟨⟨reading, callback⟩, known, rfl⟩ := Option.map_eq_some_iff.mp registers
    have read := Operation.reading_of_registers known
    show operation.reading.map _ = _
    rw [read]
    rfl

variable [DecidableEq Object]

theorem step_idWorker (world : World Object Generator Env) (act : Act Object Input Env) :
    (world.step act).idWorker =
      match reading act with
      | some reading => (IdGenerator.genId world.idWorker reading).2
      | none => world.idWorker := by
  cases act with
  | finish => rfl
  | issue object operation =>
    show (exec operation.run (world.client object)).2.idWorker = _
    rw [Operation.exec_run]
    cases operation with
    | callCmd reading type cmd cmdSize => cases cmd <;> rfl
    | _ => rfl

theorem step_allocated (world : World Object Generator Env) (act : Act Object Input Env) :
    (world.step act).allocated =
      match world.registers act with
      | some _ => world.allocated + 1
      | none => world.allocated := by
  cases act with
  | finish => rfl
  | issue object operation =>
    show (exec operation.run (world.client object)).2.allocated = _
    rw [Operation.exec_run]
    cases operation with
    | callCmd reading type cmd cmdSize => cases cmd <;> rfl
    | _ => rfl

/-- A step writes to a callback map only what it registers there. -/
theorem step_callbackMap (world : World Object Generator Env) (act : Act Object Input Env)
    (object : Object) :
    ((world.step act).objects object).callbackMap =
      match world.registers act with
      | some registered =>
        if object = registered.object then
          (world.objects object).callbackMap.insertIfNew registered.id registered.target
        else (world.objects object).callbackMap
      | none => (world.objects object).callbackMap := by
  cases act with
  | finish => rfl
  | issue other operation =>
    show (Function.update world.objects other
      (exec operation.run (world.client other)).2.self object).callbackMap = _
    rw [Operation.exec_run, Function.update_apply]
    by_cases same : object = other
    · subst same
      rw [if_pos rfl]
      cases operation with
      | callCmd reading type cmd cmdSize => cases cmd <;> rfl
      | callCb reading type cb args timeout => exact (if_pos rfl).symm
      | callCbCmd reading type cb cmd cmdSize timeout => exact (if_pos rfl).symm
      | _ => rfl
    · rw [if_neg same]
      cases operation with
      | callCb reading type cb args timeout => exact (if_neg same).symm
      | callCbCmd reading type cb cmd cmdSize timeout => exact (if_neg same).symm
      | _ => rfl

end World

/-! ### Steps that the program allows -/

/-- What the callers of an operation keep to: commands are not null, and payloads fit behind a
header. -/
def Operation.Fits : Operation Input Env → Prop
  | .call _ _ _ => True
  | .callCmd _ _ cmd cmdSize => cmd ≠ none ∧ cmdSize.toNat ≤ dataCapacity
  | .callCb _ _ _ args _ => ∀ bytes, packArgs args = .ok bytes → bytes.length ≤ dataCapacity
  | .callCbCmd _ _ _ cmd cmdSize _ => cmd ≠ none ∧ cmdSize.toNat ≤ dataCapacity
  | .dealResult retMsg => ∀ msg, retMsg = some msg → msg.size.toNat ≤ dataCapacity

/-- A step whose operation its caller may ask for. -/
def Act.Fits : Act Object Input Env → Prop
  | .issue _ operation => operation.Fits
  | .finish => True

end RpcInstance
