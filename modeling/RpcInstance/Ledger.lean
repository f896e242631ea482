/-
This file states what an `RpcBase` is for without its maps: an object is three lists of
what was asked of it so far, the bindings, the ids it drew and the callbacks it
registered, and answers by looking them up. The last binding of a type counts, and
the first callback under an id.

A process whose objects are such logs gives the same answers as the process of the
source, over every run of requests. What can be read off a log then holds of the
source: a callback stays with its id for good, whatever is asked of the process after
it was registered. All of this holds of a run as far as it goes: both processes stop at
the first request that is undefined.
-/

import RpcInstance.Requests
import RpcInstance.Correlation
import RpcInstance.Dispatch

namespace RpcInstance

open Code Msgpack Simulation

variable {Object Worker Generator Input Env : Type} [IdGenerator Generator Input]

/-! ### Logs -/

/-- What was asked of an object, in order. -/
structure Log (Env : Type) where
  bound : List (CallType × Binding Env) := []
  drawn : List UInt64 := []
  registered : List (UInt64 × SharedPtr (RpcCB Env)) := []

namespace Log

/-- The binding of a type that counts. -/
def handler (log : Log Env) (type : CallType) : Option (Binding Env) :=
  lastBound log.bound type

/-- The id that was drawn last. -/
def rpcid (log : Log Env) : UInt64 :=
  log.drawn.getLast?.getD 0

/-- The callback under an id that counts. -/
def callback (log : Log Env) (id : UInt64) : Option (SharedPtr (RpcCB Env)) :=
  (log.registered.find? fun known => known.1 = id).map Prod.snd

/-- The log after a request that binds, draws and registers what is given. -/
def extended (log : Log Env) (bound : Option (CallType × Binding Env)) (drawn : Option UInt64)
    (registered : Option (UInt64 × SharedPtr (RpcCB Env))) : Log Env where
  bound := log.bound ++ bound.toList
  drawn := log.drawn ++ drawn.toList
  registered := log.registered ++ registered.toList

/-- The handler of a type is started on a payload, if there is one. -/
def invoke (log : Log Env) (type : CallType) (payload : Except Failure (List UInt8)) :
    Except Failure (Ending Env) :=
  match log.handler type with
  | none => .ok .idle
  | some binding => payload.map fun bytes => .handler binding.wrapper bytes

/-- A call arrives. -/
def receive (log : Log Env) : Option RpcMsg → Except Failure (Ending Env)
  | none => .ok .idle
  | some msg => log.invoke ⟨msg.type⟩ (copyData msg.data msg.size)

/-- A reply arrives. -/
def settle (log : Log Env) : Option RpcResultMsg → Except Failure (Ending Env)
  | none => .ok .idle
  | some msg =>
    if msg.state = 0 then .ok .idle
    else
      match log.callback msg.rpcid.toUInt64 with
      | none => .ok .idle
      | some target => (copyData msg.data msg.size).map fun data => .callback target (cStr data)

/-- A frame is built around a payload. -/
def frame (id : UInt64) (type : CallType) (payload : Except Failure (List UInt8))
    (ending : RpcMsg → Ending Env) : Except Failure (Ending Env) :=
  (payload >>= Client.createMsg id type).map ending

/-- What an operation of the client side ends in, where `next` is the id that it draws. -/
def operate (log : Log Env) (next : Input → UInt64) :
    Operation Input Env → Except Failure (Ending Env)
  | .call _ type args => log.invoke type ((packArgs args).mapError .thrown)
  | .callCmd _ _ none _ => .ok .idle
  | .callCmd reading type (some memory) cmdSize =>
    frame (next reading) type (CmdPointer.read (some memory) cmdSize) .dropped
  | .callCb reading type _ args _ =>
    frame (next reading) type ((packArgs args).mapError .thrown)
      fun send => .sendMsg send send.getSize
  | .callCbCmd reading type _ cmd cmdSize _ => frame (next reading) type (cmd.read cmdSize) .dropped
  | .dealResult retMsg => log.settle retMsg

/-- What a request is answered with, where `next` is the id that it draws. -/
def answer (log : Log Env) (next : Input → UInt64) :
    Request Input Env → Except Failure (Answer Env)
  | .bind _ _ => .ok (.ends .idle)
  | .route msg => (log.receive msg).map .ends
  | .testLocalDataCall msg => (log.receive msg).map .ends
  | .testLocalCall type args => (log.invoke type ((packArgs args).mapError .thrown)).map .ends
  | .operate operation => (log.operate next operation).map .ends
  | .testRegisterCB _ _ => .ok (.ends .idle)
  | .getRpcId => .ok (.rpcid log.rpcid)

/-! ### Objects that their logs describe -/

/-- An object that holds what its log says. -/
structure Describes (log : Log Env) (base : RpcBase Env) : Prop where
  functionMap : ∀ type, base.functionMap[type]? = (log.handler type).map Binding.wrapper
  rpcid : base.rpcid = log.rpcid
  callbackMap : ∀ id, base.callbackMap[id]? = log.callback id

theorem describes_start : Describes {} ({} : RpcBase Env) where
  functionMap _ := Std.HashMap.getElem?_empty
  rpcid := rfl
  callbackMap _ := Std.HashMap.getElem?_empty

theorem callback_extended (log : Log Env) (bound : Option (CallType × Binding Env))
    (drawn : Option UInt64) (known : UInt64 × SharedPtr (RpcCB Env)) (id : UInt64) :
    (log.extended bound drawn (some known)).callback id =
      (log.callback id).or (if known.1 = id then some known.2 else none) := by
  show ((log.registered ++ [known]).find? _).map _ = _
  rw [List.find?_append, List.find?_singleton, Option.map_or]
  by_cases same : known.1 = id
  · rw [if_pos same, if_pos (decide_eq_true same)]
    rfl
  · rw [if_neg same, if_neg fun yes => same (of_decide_eq_true yes)]
    rfl

theorem rpcid_extended (log : Log Env) (bound : Option (CallType × Binding Env))
    (drawn : Option UInt64) (registered : Option (UInt64 × SharedPtr (RpcCB Env))) :
    (log.extended bound drawn registered).rpcid = drawn.getD log.rpcid := by
  show (log.drawn ++ drawn.toList).getLast?.getD 0 = _
  cases drawn with
  | none =>
    rw [Option.toList_none, List.append_nil]
    rfl
  | some id =>
    rw [Option.toList_some, List.getLast?_concat]
    rfl

variable {log : Log Env} {client : Client Generator Env}

/-- What a request to an object changes is what it adds to the log of the object. -/
theorem Describes.after (describes : log.Describes client.self) (request : Request Input Env) :
    (log.extended request.binds (request.reading.map client.nextId)
      ((request.registers client.nextId).map fun known =>
        (known.1, client.nextCallback known.2))).Describes (request.after client).self := by
  rw [request.after_eq]
  refine ⟨fun type => ?_, ?_, fun id => ?_⟩
  · dsimp only
    show _ = (lastBound (log.bound ++ request.binds.toList) type).map Binding.wrapper
    rcases request.binds with _ | bound
    · rw [Option.toList_none, List.append_nil]
      exact describes.functionMap type
    · rw [Option.toList_some, lastBound_concat, Std.HashMap.getElem?_insert,
        describes.functionMap type]
      by_cases same : bound.1 = type
      · rw [if_pos (beq_iff_eq.mpr same), if_pos same]
        rfl
      · rw [if_neg (mt beq_iff_eq.mp same), if_neg same]
        rfl
  · rw [rpcid_extended, describes.rpcid]
  · dsimp only
    rcases request.registers client.nextId with _ | known
    · rw [describes.callbackMap id]
      show _ = ((log.registered ++ []).find? _).map _
      rw [List.append_nil]
      rfl
    · rw [Option.map_some, callback_extended, getElem?_insertIfNew_or, describes.callbackMap id]

/-- Finding a handler in the table of an object is finding it in the log. -/
theorem Describes.invoke {self : RpcBase Env} (describes : log.Describes self) (type : CallType)
    (payload : Except Failure (List UInt8)) :
    (match self.functionMap[type]? with
      | none => .ok .idle
      | some wrapper => do
        let bytes ← payload
        return .handler wrapper bytes) = log.invoke type payload := by
  rw [describes.functionMap, Log.invoke]
  rcases log.handler type with _ | binding
  · rfl
  · rcases payload with failure | bytes <;> rfl

theorem Describes.receive {self : RpcBase Env} (describes : log.Describes self)
    (msg : Option RpcMsg) : self.dispatch msg = log.receive msg := by
  cases msg with
  | none => rfl
  | some msg => exact describes.invoke ⟨msg.type⟩ (copyData msg.data msg.size)

theorem Describes.settle {self : RpcBase Env} (describes : log.Describes self)
    (retMsg : Option RpcResultMsg) : self.dealResult retMsg = log.settle retMsg := by
  cases retMsg with
  | none => rfl
  | some msg =>
    rw [RpcBase.dealResult, Log.settle, describes.callbackMap]
    by_cases failed : msg.state = 0
    · rw [if_pos failed, if_pos failed]
    · rw [if_neg failed, if_neg failed]
      rcases log.callback msg.rpcid.toUInt64 with _ | target
      · rfl
      · rcases copyData msg.data msg.size with failure | data <;> rfl

/-- An object answers as its log does. -/
theorem Describes.answer (describes : log.Describes client.self) (request : Request Input Env) :
    request.result client = log.answer client.nextId request := by
  cases request with
  | bind type binding => rfl
  | route msg => exact congrArg (Except.map Answer.ends) (describes.receive msg)
  | testLocalDataCall msg => exact congrArg (Except.map Answer.ends) (describes.receive msg)
  | testLocalCall type args => exact congrArg (Except.map Answer.ends) (describes.invoke type _)
  | operate operation =>
    refine congrArg (Except.map Answer.ends) ?_
    cases operation with
    | call reading type args => exact describes.invoke type _
    | callCmd reading type cmd cmdSize => cases cmd <;> rfl
    | callCb reading type cb args timeout => rfl
    | callCbCmd reading type cb cmd cmdSize timeout => rfl
    | dealResult retMsg => exact describes.settle retMsg
  | testRegisterCB cbId func => rfl
  | getRpcId => exact congrArg (fun id => Except.ok (Answer.rpcid id)) describes.rpcid

/-- What a reply reaches is the callback that the log has under its id. -/
theorem callback_of_settle {msg : RpcResultMsg} {target : SharedPtr (RpcCB Env)}
    {data : List UInt8} (settled : log.settle (some msg) = .ok (.callback target data)) :
    log.callback msg.rpcid.toUInt64 = some target := by
  rw [settle] at settled
  by_cases failed : msg.state = 0
  · rw [if_pos failed] at settled
    cases settled
  · rw [if_neg failed] at settled
    rcases found : log.callback msg.rpcid.toUInt64 with _ | other
    · rw [found] at settled
      cases settled
    · rw [found] at settled
      obtain ⟨bytes, -, ends⟩ := map_eq_ok_iff.mp settled
      rw [(Ending.callback.inj ends).1]

theorem settle_of_callback {msg : RpcResultMsg} {target : SharedPtr (RpcCB Env)}
    (success : msg.state ≠ 0) (found : log.callback msg.rpcid.toUInt64 = some target)
    (fits : msg.size.toNat ≤ dataCapacity) :
    log.settle (some msg) = .ok (.callback target (replyText msg)) := by
  rw [settle, if_neg success, found, copyData_eq_ok fits]
  rfl

end Log

/-! ### A process of logs -/

/-- The logs of the objects of a process, with their generators and the number of allocations. -/
structure Ledger (Object Worker Generator Env : Type) where
  logs : Object → Log Env
  idWorkers : Worker → Generator
  allocated : ℕ

namespace Ledger

/-- Nothing was asked yet. -/
def start (idWorkers : Worker → Generator) : Ledger Object Worker Generator Env where
  logs _ := {}
  idWorkers
  allocated := 0

/-- A process whose objects are described by the logs. -/
structure Describes (ledger : Ledger Object Worker Generator Env)
    (process : Process Object Worker Generator Env) : Prop where
  logs : ∀ object, (ledger.logs object).Describes (process.objects object)
  idWorkers : process.idWorkers = ledger.idWorkers
  allocated : process.allocated = ledger.allocated

theorem describes_start (idWorkers : Worker → Generator) :
    (start idWorkers : Ledger Object Worker Generator Env).Describes (Process.start idWorkers) where
  logs _ := Log.describes_start
  idWorkers := rfl
  allocated := rfl

/-- The objects have generators and addresses as the ledger says. -/
theorem Describes.client {worker : Object → Worker} {ledger : Ledger Object Worker Generator Env}
    {process : Process Object Worker Generator Env} (describes : ledger.Describes process)
    (object : Object) : process.client worker object =
      ⟨process.objects object, ledger.idWorkers (worker object), ledger.allocated⟩ := by
  rw [Process.client, describes.idWorkers, describes.allocated]

variable [DecidableEq Object] [DecidableEq Worker]

/-- A request is answered from the log of its object, and what it binds, draws and registers is
added to the log. -/
def ask (worker : Object → Worker) (ledger : Ledger Object Worker Generator Env)
    (asked : Object × Request Input Env) :
    Except Failure (Answer Env) × Ledger Object Worker Generator Env :=
  let (object, request) := asked
  let idWorker := ledger.idWorkers (worker object)
  let next := fun reading => (IdGenerator.genId idWorker reading).1
  let registered := (request.registers next).map fun known =>
    (known.1, (⟨ledger.allocated, known.2⟩ : SharedPtr (RpcCB Env)))
  ((ledger.logs object).answer next request, {
    logs := Function.update ledger.logs object
      ((ledger.logs object).extended request.binds (request.reading.map next) registered)
    idWorkers := Function.update ledger.idWorkers (worker object)
      (match request.reading with
      | some reading => (IdGenerator.genId idWorker reading).2
      | none => idWorker)
    allocated := ledger.allocated + (request.registers next).toList.length })

/-- One step of a run, which an undefined request ends. -/
def step (worker : Object → Worker) : Option (Ledger Object Worker Generator Env) →
    Object × Request Input Env →
      Option (Except Failure (Answer Env)) × Option (Ledger Object Worker Generator Env) :=
  stopping (ask worker) isUndefined

/-- One request is answered alike, and leaves the objects described. -/
theorem simulates_ask (worker : Object → Worker) :
    Simulates (Process.ask worker)
      (ask worker : _ → Object × Request Input Env → _ × Ledger Object Worker Generator Env)
      fun _ process ledger => ledger.Describes process := by
  rintro ⟨object, request⟩ rest process ledger describes
  have described : (ledger.logs object).Describes
      (Client.mk (process.objects object) (ledger.idWorkers (worker object))
        ledger.allocated).self := describes.logs object
  rw [Process.ask_eq, describes.client]
  refine ⟨described.answer request, ⟨fun other => ?_, ?_, ?_⟩⟩
  · dsimp only [ask]
    by_cases same : other = object
    · subst same
      rw [Function.update_self, Function.update_self]
      exact described.after request
    · rw [Function.update_of_ne same, Function.update_of_ne same]
      exact describes.logs other
  · rw [request.after_eq, describes.idWorkers]
    rfl
  · rw [request.after_eq]
    rfl

/-- A run of requests ends in both where it ends in one. -/
theorem simulates (worker : Object → Worker) :
    Simulates (Process.step worker)
      (step worker : _ → Object × Request Input Env →
        _ × Option (Ledger Object Worker Generator Env))
      fun _ => Option.Rel fun process ledger => ledger.Describes process :=
  (simulates_ask worker).stopping isUndefined

end Ledger

/-- Over every run of requests to fresh objects a process answers as its ledger does, up to and
with the first request that is undefined. As long as there is none, the objects hold what the
ledger says. -/
theorem requests_follow_logs [DecidableEq Object] [DecidableEq Worker] (worker : Object → Worker)
    (idWorkers : Worker → Generator) (requests : List (Object × Request Input Env)) :
    outputs (Process.step worker) (some (Process.start idWorkers)) requests =
        outputs (Ledger.step worker) (some (Ledger.start idWorkers)) requests ∧
      Option.Rel (fun process ledger => ledger.Describes process)
        (final (Process.step worker) (some (Process.start idWorkers)) requests)
        (final (Ledger.step worker) (some (Ledger.start idWorkers)) requests) :=
  ⟨(Ledger.simulates worker).outputs_eq (.some (Ledger.describes_start idWorkers)),
    (Ledger.simulates worker).final_related (.some (Ledger.describes_start idWorkers))⟩

/-! ### What stays -/

section

variable [DecidableEq Object] [DecidableEq Worker] (worker : Object → Worker)

/-- A request to a process that some others have left running is answered as by its ledger. -/
theorem answer_of_ledger {idWorkers : Worker → Generator}
    {requests : List (Object × Request Input Env)}
    {process : Process Object Worker Generator Env}
    (running : final (Process.step worker) (some (Process.start idWorkers)) requests =
      some process) (asked : Object × Request Input Env) :
    (process.ask worker asked).1 =
      ((final (Ledger.ask worker) (Ledger.start idWorkers) requests).ask worker asked).1 := by
  obtain rfl := final_of_running _ _ _ running
  exact (Ledger.simulates_ask worker asked [] _ _
    ((Ledger.simulates_ask worker).final_related (Ledger.describes_start idWorkers))).1

/-- What holds of the log of an object, and stays true of it with what a request adds, holds after
any further requests. -/
theorem log_final (ledger : Ledger Object Worker Generator Env) (object : Object)
    (holds : Log Env → Prop) (now : holds (ledger.logs object))
    (requests : List (Object × Request Input Env))
    (grows : ∀ log, holds log → ∀ request, (object, request) ∈ requests → ∀ drawn registered,
      holds (log.extended request.binds drawn registered)) :
    holds ((final (Ledger.ask worker) ledger requests).logs object) := by
  refine final_invariant _ ledger (fun ledger => holds (ledger.logs object))
    (· ∈ requests) now ?_ requests fun _ => id
  rintro ledger ⟨other, request⟩ found member
  dsimp only [Ledger.ask]
  by_cases same : object = other
  · subst same
    rw [Function.update_self]
    exact grows _ found request member _ _
  · rw [Function.update_of_ne same]
    exact found

/-- A callback that is found under an id is found there after any further requests. -/
theorem callback_final (ledger : Ledger Object Worker Generator Env) {object : Object}
    {id : UInt64} {target : SharedPtr (RpcCB Env)}
    (found : (ledger.logs object).callback id = some target)
    (requests : List (Object × Request Input Env)) :
    ((final (Ledger.ask worker) ledger requests).logs object).callback id = some target := by
  refine log_final worker ledger object (fun log => log.callback id = some target) found requests
    fun log found request _ drawn registered => ?_
  cases registered with
  | none =>
    show (List.find? _ (log.registered ++ [])).map _ = _
    rw [List.append_nil]
    exact found
  | some known =>
    rw [Log.callback_extended, found]
    rfl

/-- A binding that is in force stays in force as long as nothing else is bound to its type. -/
theorem handler_final (ledger : Ledger Object Worker Generator Env) {object : Object}
    {type : CallType} {binding : Binding Env}
    (found : (ledger.logs object).handler type = some binding)
    (requests : List (Object × Request Input Env))
    (kept : ∀ asked ∈ requests, asked.1 = object →
      ∀ bound, asked.2.binds = some bound → bound.1 ≠ type) :
    ((final (Ledger.ask worker) ledger requests).logs object).handler type = some binding := by
  refine log_final worker ledger object (fun log => log.handler type = some binding) found requests
    fun log found request member _ _ => ?_
  show lastBound (log.bound ++ request.binds.toList) type = _
  rcases binds : request.binds with _ | bound
  · rw [Option.toList_none, List.append_nil]
    exact found
  · rw [Option.toList_some, lastBound_concat, if_neg (kept _ member rfl bound binds)]
    exact found

/-- Where a successful reply to an object has reached a callback, every later reply under the same
id reaches the same callback, whatever is asked of the process in between, as long as no request is
undefined. -/
theorem callback_stays (idWorkers : Worker → Generator)
    (before between : List (Object × Request Input Env)) (object : Object)
    (first second : RpcResultMsg) (target : SharedPtr (RpcCB Env)) (data : List UInt8)
    (process after : Process Object Worker Generator Env)
    (running : final (Process.step worker) (some (Process.start idWorkers)) before = some process)
    (reached : (process.ask worker (object, .operate (.dealResult (some first)))).1 =
      .ok (.ends (.callback target data)))
    (stillRunning : final (Process.step worker) (some (Process.start idWorkers))
      (before ++ between) = some after)
    (same : second.rpcid = first.rpcid) (success : second.state ≠ 0)
    (fits : second.size.toNat ≤ dataCapacity) :
    (after.ask worker (object, .operate (.dealResult (some second)))).1 =
      .ok (.ends (.callback target (replyText second))) := by
  rw [answer_of_ledger worker running] at reached
  rw [answer_of_ledger worker stillRunning]
  obtain ⟨ending, settled, isEnding⟩ := map_eq_ok_iff.mp reached
  obtain rfl := Answer.ends.inj isEnding
  have found : ((final (Ledger.ask worker) (Ledger.start idWorkers) before).logs object).callback
      first.rpcid.toUInt64 = some target := Log.callback_of_settle settled
  refine congrArg (Except.map Answer.ends) (Log.settle_of_callback success ?_ fits)
  rw [same, final_append]
  exact callback_final worker _ found between

/-- One object with one generator, after some requests. -/
def oneObject (requests : List (Unit × Request Unit Unit)) : Process Unit Unit IdWorker Unit :=
  final (Process.ask id) (Process.start fun _ => {}) requests

/-- A callback that is registered under `1` keeps the reply to the first call. -/
theorem callback_stays_registered :
    ((oneObject [((), .testRegisterCB 1 fun _ => return ()),
        ((), .operate (.callCb () .sessionCb (fun _ => return ()) [] 0))]).ask id
      ((), .operate (.dealResult (some (emptyReply 1))))).1 =
        .ok (.ends (.callback ⟨0, { cb := fun _ => return (), timeout := 0 }⟩ [])) := by
  have running : final (Process.step id) (some (Process.start fun _ => {}))
      [((), .testRegisterCB 1 fun _ => return ())] =
        some (oneObject [((), .testRegisterCB 1 fun _ => return ())]) := rfl
  have reached : ((oneObject [((), .testRegisterCB 1 fun _ => return ())]).ask id
      ((), .operate (.dealResult (some (emptyReply 1))))).1 =
        .ok (.ends (.callback ⟨0, { cb := fun _ => return (), timeout := 0 }⟩ [])) :=
    (answer_of_ledger id running _).trans rfl
  have stays := callback_stays id (fun _ : Unit => ({} : IdWorker))
    [((), .testRegisterCB 1 fun _ => return ())]
    [((), .operate (.callCb () .sessionCb (fun _ => return ()) [] 0))] () (emptyReply 1)
    (emptyReply 1) _ [] _ _ running reached rfl rfl (by decide) (by decide)
  exact stays

/-- A binding governs every call of its type that arrives before something else is bound to the
type, whatever else is asked of the process in between, as long as no request is undefined. -/
theorem binding_governs (idWorkers : Worker → Generator)
    (before between : List (Object × Request Input Env)) (object : Object) (type : CallType)
    (binding : Binding Env)
    (kept : ∀ asked ∈ between, asked.1 = object →
      ∀ bound, asked.2.binds = some bound → bound.1 ≠ type)
    (process : Process Object Worker Generator Env)
    (running : final (Process.step worker) (some (Process.start idWorkers))
      (before ++ (object, .bind type binding) :: between) = some process)
    (msg : RpcMsg) (addressed : msg.type = type.value) (fits : msg.size.toNat ≤ dataCapacity) :
    (process.ask worker (object, .route (some msg))).1 =
      .ok (.ends (.handler binding.wrapper (msg.data.bytes.take msg.size.toNat))) := by
  have bound : (((final (Ledger.ask worker) (Ledger.start idWorkers) before).ask worker
      (object, .bind type binding)).2.logs object).handler type = some binding := by
    dsimp only [Ledger.ask]
    rw [Function.update_self]
    show lastBound (_ ++ [(type, binding)]) type = some binding
    rw [lastBound_concat, if_pos rfl]
  have found := handler_final worker _ bound between kept
  rw [answer_of_ledger worker running, final_append, final_cons]
  show (Log.invoke _ ⟨msg.type⟩ _).map Answer.ends = _
  rw [addressed, Log.invoke, found, copyData_eq_ok fits]
  rfl

/-- A call without data. -/
def bareCall (type : CallType) : RpcMsg where
  type := type.value
  data := .zero dataCapacity

theorem binding_governs_session :
    ((oneObject [((), .bind .session (.usingCmd fun _ => return ())),
        ((), .bind .sessionMem (.usingCmd fun _ => return ())), ((), .getRpcId)]).ask id
      ((), .route (some (bareCall .session)))).1 =
        .ok (.ends (.handler (Invoker.applyUsingCmd fun _ => return ()) [])) := by
  have kept : ∀ asked ∈ [((), (.bind .sessionMem (.usingCmd fun _ => return ()) :
      Request Unit Unit)), ((), .getRpcId)], asked.1 = () →
        ∀ bound, asked.2.binds = some bound → bound.1 ≠ .session :=
    List.forall_mem_cons.mpr ⟨fun _ bound binds => Option.some.inj binds ▸ by decide,
      List.forall_mem_singleton.mpr fun _ _ binds => nomatch binds⟩
  have small : (bareCall .session).size.toNat ≤ dataCapacity := by decide
  have governs := binding_governs id (fun _ : Unit => ({} : IdWorker)) [] _ () .session
    (.usingCmd fun _ => return ()) kept _ rfl (bareCall .session) rfl small
  exact governs

end

end RpcInstance
