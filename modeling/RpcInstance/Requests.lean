/-
This file models a process as its callers see it: any number of `RpcBase` objects,
each over one of any number of id generators, and all public operations on them in
any order, the handlers that are bound while calls are made included.

A generator may belong to one object, as the default constructor has it, or be shared
by several, as the other constructor allows. `Network.lean` follows the client sides
of objects with one generator and the code from outside that they leave running; here
every member function is a request, and a request is answered with what it ends in.

A request can be undefined, where a frame overruns its buffer or a message declares more
data than there is. The run of a process ends there: what the program does after an
overrun is not in the model.
-/

import RpcInstance.Library.Simulation
import RpcInstance.Network

namespace RpcInstance

open Code Msgpack Simulation

/-- A call of a public member function, with the reading its id generator makes. -/
inductive Request (Input Env : Type) where
  | bind (type : CallType) (binding : Binding Env)
  | route (msg : Option RpcMsg)
  | testLocalDataCall (msg : Option RpcMsg)
  | testLocalCall (type : CallType) (args : List Packed)
  | operate (operation : Operation Input Env)
  | testRegisterCB (cbId : UInt64) (func : Callback Env)
  | getRpcId

/-- What a request is answered with. -/
inductive Answer (Env : Type) where
  | ends (ending : Ending Env)
  | rpcid (id : UInt64)

/-- The objects of a process, the generators that they draw their ids from, and the number of
allocations so far. -/
structure Process (Object Worker Generator Env : Type) where
  objects : Object → RpcBase Env
  idWorkers : Worker → Generator
  allocated : ℕ

variable {Object Worker Generator Input Env : Type} [IdGenerator Generator Input]

/-! ### Requests -/

namespace Request

/-- Calling the member function. -/
def run : Request Input Env → Code (Client Generator Env) (Answer Env)
  | .bind type binding => do
    modify fun client => { client with self := client.self.bind type binding }
    return .ends .idle
  | .route msg => do
    let client ← get
    let ending ← ofResult (client.self.route msg)
    return .ends ending
  | .testLocalDataCall msg => do
    let client ← get
    let ending ← ofResult (client.self.testLocalDataCall msg)
    return .ends ending
  | .testLocalCall type args => do
    let client ← get
    let ending ← ofResult (client.self.testLocalCall type args)
    return .ends ending
  | .operate operation => do
    let ending ← operation.run
    return .ends ending
  | .testRegisterCB cbId func => do
    let ending ← Client.testRegisterCB cbId func
    return .ends ending
  | .getRpcId => do
    let client ← get
    return .rpcid client.self.rpcid

/-- The binding that a request adds to the table of its object. -/
def binds : Request Input Env → Option (CallType × Binding Env)
  | .bind type binding => some (type, binding)
  | _ => none

/-- The reading of a request that draws an id. -/
def reading : Request Input Env → Option Input
  | .operate operation => operation.reading
  | _ => none

/-- The callback that a request registers, and the id that it registers it under, as a function of
the id that the next call draws. -/
def registers (next : Input → UInt64) : Request Input Env → Option (UInt64 × RpcCB Env)
  | .operate operation => operation.registers.map fun known => (next known.1, known.2)
  | .testRegisterCB cbId func => some (cbId, { cb := func, timeout := 0 })
  | _ => none

/-- The client that a request leaves behind. -/
def after (request : Request Input Env) (client : Client Generator Env) : Client Generator Env :=
  match request with
  | .bind type binding => { client with self := client.self.bind type binding }
  | .operate operation => operation.after client
  | .testRegisterCB cbId func => client.registered cbId { cb := func, timeout := 0 }
  | _ => client

/-- How a request is answered. -/
def result (request : Request Input Env) (client : Client Generator Env) :
    Except Failure (Answer Env) :=
  match request with
  | .bind _ _ => .ok (.ends .idle)
  | .route msg => (client.self.route msg).map .ends
  | .testLocalDataCall msg => (client.self.testLocalDataCall msg).map .ends
  | .testLocalCall type args => (client.self.testLocalCall type args).map .ends
  | .operate operation => (operation.result client).map .ends
  | .testRegisterCB _ _ => .ok (.ends .idle)
  | .getRpcId => .ok (.rpcid client.self.rpcid)

/-- Reading the object and answering with a result that does not change it. -/
theorem exec_read (settle : Client Generator Env → Except Failure (Ending Env))
    (client : Client Generator Env) :
    exec (do
      let client ← get
      let ending ← ofResult (settle client)
      return Answer.ends ending) client = ((settle client).map .ends, client) := by
  rw [exec_bind, Client.exec_get]
  exact exec_bind_pure (ofResult (settle client)) Answer.ends client

theorem exec_run (request : Request Input Env) (client : Client Generator Env) :
    exec request.run client = (request.result client, request.after client) := by
  cases request with
  | bind type binding => rfl
  | route msg => exact exec_read (fun client => client.self.route msg) client
  | testLocalDataCall msg =>
    exact exec_read (fun client => client.self.testLocalDataCall msg) client
  | testLocalCall type args =>
    exact exec_read (fun client => client.self.testLocalCall type args) client
  | operate operation =>
    show exec (operation.run >>= fun ending => pure (Answer.ends ending)) client = _
    rw [exec_bind_pure, Operation.exec_run]
    rfl
  | testRegisterCB cbId func => rfl
  | getRpcId => rfl

/-- What a request changes: it adds what it binds, notes the id that it draws, and adds what it
registers where there is no entry yet. -/
theorem after_eq (request : Request Input Env) (client : Client Generator Env) :
    request.after client = {
      self := {
        functionMap :=
          match request.binds with
          | some bound => client.self.functionMap.insert bound.1 bound.2.wrapper
          | none => client.self.functionMap
        rpcid := (request.reading.map client.nextId).getD client.self.rpcid
        callbackMap :=
          match request.registers client.nextId with
          | some known => client.self.callbackMap.insertIfNew known.1 (client.nextCallback known.2)
          | none => client.self.callbackMap }
      idWorker :=
        match request.reading with
        | some reading => (IdGenerator.genId client.idWorker reading).2
        | none => client.idWorker
      allocated := client.allocated + (request.registers client.nextId).toList.length } := by
  cases request with
  | operate operation =>
    cases operation with
    | callCmd reading type cmd cmdSize => cases cmd <;> rfl
    | _ => rfl
  | _ => rfl

end Request

/-! ### Processes -/

namespace Process

/-- What a request to an object works on, where `worker` says which generator each object has. -/
def client (worker : Object → Worker) (process : Process Object Worker Generator Env)
    (object : Object) : Client Generator Env :=
  ⟨process.objects object, process.idWorkers (worker object), process.allocated⟩

/-- Objects with nothing bound and nothing called yet. -/
def start (idWorkers : Worker → Generator) : Process Object Worker Generator Env where
  objects _ := {}
  idWorkers
  allocated := 0

variable [DecidableEq Object] [DecidableEq Worker]

/-- A request to an object. -/
def ask (worker : Object → Worker) (process : Process Object Worker Generator Env)
    (asked : Object × Request Input Env) :
    Except Failure (Answer Env) × Process Object Worker Generator Env :=
  let (result, client) := exec asked.2.run (process.client worker asked.1)
  (result, {
    objects := Function.update process.objects asked.1 client.self
    idWorkers := Function.update process.idWorkers (worker asked.1) client.idWorker
    allocated := client.allocated })

/-- One step of a run, which an undefined request ends. -/
def step (worker : Object → Worker) : Option (Process Object Worker Generator Env) →
    Object × Request Input Env →
      Option (Except Failure (Answer Env)) × Option (Process Object Worker Generator Env) :=
  stopping (ask worker) isUndefined

theorem ask_eq (worker : Object → Worker) (process : Process Object Worker Generator Env)
    (asked : Object × Request Input Env) :
    process.ask worker asked = (asked.2.result (process.client worker asked.1), {
      objects := Function.update process.objects asked.1
        (asked.2.after (process.client worker asked.1)).self
      idWorkers := Function.update process.idWorkers (worker asked.1)
        (asked.2.after (process.client worker asked.1)).idWorker
      allocated := (asked.2.after (process.client worker asked.1)).allocated }) := by
  rw [ask, Request.exec_run]

end Process

end RpcInstance
