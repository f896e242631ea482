/-
This file puts calls, frames and replies together: peers that bind handlers, call each
other and answer, over a network that delivers any frame at any time, to any peer and as
often as it likes, or never.

What a caller may think of this is the directory: each peer has a handler of the caller's
own argument types for each type of call, a delivery invokes that handler on the values
that the caller gave, and a reply invokes the callback that the caller gave. Nothing in it
is packed, numbered or looked up by a number. Two habits of the source stay visible: a
callback is handed the text of a reply up to its first zero byte, and what a free function
throws is reported in the text of its wrapper. The peers of the source do the same over
every run in which the arguments fit into a frame and fewer than `2 ^ 32` steps are taken,
however they share their `IdWorker` generators.
-/

import RpcInstance.Ledger
import RpcInstance.Replies
import RpcInstance.Msgpack.RoundTrip

namespace RpcInstance

open Code Msgpack Simulation

/-! ### Typed calls -/

/-- The argument types that the peers have agreed on for each type of call. -/
structure Interface where
  args : CallType → List ArgType
  depth : ℕ
  shallow : depth < depthLimit
  adapted : ∀ type, ∀ T ∈ args type, Adapted depth true T

/-- A handler for arguments of some types, a free function or a member function of an object. -/
inductive Handler (Ts : List ArgType) (Env : Type) where
  | function (returnsVoid : Bool) (invoke : Tuple Ts → Code Env Unit)
  | member {Object : Type} (returnsVoid : Bool) (invoke : Object → Tuple Ts → Code Env Unit)
      (object : Object)

namespace Handler

variable {Ts : List ArgType} {Env : Type}

/-- What `bind` is given. -/
def binding : Handler Ts Env → Binding Env
  | .function returnsVoid invoke => .function ⟨Ts, returnsVoid, invoke⟩
  | .member returnsVoid invoke object => .member ⟨Ts, returnsVoid, invoke⟩ object

/-- Invoking a handler on values, with the text that it is reported by. Only what a free function
throws is caught. -/
def invoke (values : Tuple Ts) (env : Env) : Handler Ts Env → Except Failure String × Env
  | .function returnsVoid invoke =>
    Invoker.classify ⟨Ts, returnsVoid, invoke⟩ (exec (invoke values) env)
  | .member returnsVoid invoke object =>
    let (ended, env) := exec (invoke object values) env
    (ended.map fun _ => Invoker.memberText ⟨Ts, returnsVoid, invoke⟩, env)

/-- What is bound is invoked on the values that the bytes unpack to. -/
theorem exec_wrapper (handler : Handler Ts Env) {bytes : List UInt8} {values : Tuple Ts}
    (unpacked : Codec.unpack Ts bytes = .ok values) (env : Env) :
    exec (handler.binding.wrapper bytes) env = handler.invoke values env := by
  cases handler with
  | function returnsVoid invoke =>
    exact @Invoker.exec_apply_of_ok _ ⟨Ts, returnsVoid, invoke⟩ _ _ unpacked env
  | member returnsVoid invoke object =>
    exact @Invoker.exec_applyMember_of_ok _ _ ⟨Ts, returnsVoid, invoke⟩ object _ _ unpacked env

end Handler

/-- What happens next. -/
inductive Event (interface : Interface) (Peer Env : Type) where
  | bind (peer : Peer) (type : CallType) (handler : Handler (interface.args type) Env)
  | callCb (peer : Peer) (type : CallType) (cb : Callback Env)
      (values : Tuple (interface.args type)) (timeout : UInt32)
  /-- The peer itself handles the call. -/
  | call (peer : Peer) (type : CallType) (values : Tuple (interface.args type))
  /-- The frame of a `callCb` arrives at a peer. The calls are counted from `0`. -/
  | deliver (index : ℕ) (peer : Peer)
  /-- A reply to a `callCb` arrives at its caller. -/
  | reply (index : ℕ) (answer : RpcResultMsg)

variable {interface : Interface} {Peer Worker Env : Type}

/-! ### Peers that exchange frames -/

/-- The peers, whose generators are counters, the frames that were handed to `sendMsg`, each with
its sender, and the state that handlers and callbacks work on. -/
structure System (Peer Worker Env : Type) where
  process : Process Peer Worker IdWorker Env
  sent : List (Peer × RpcMsg)
  env : Env

namespace System

/-- Peers with nothing bound and counters that start at `0`. -/
def start (env : Env) : System Peer Worker Env where
  process := .start fun _ => {}
  sent := []
  env

/-- Running what a request of a peer has ended in. A frame is put on the network. -/
def perform (system : System Peer Worker Env) (peer : Peer) :
    Except Failure (Answer Env) → Except Failure (Option String) × System Peer Worker Env
  | .error failure => (.error failure, system)
  | .ok (.rpcid _) => (.ok none, system)
  | .ok (.ends (.sendMsg msg _)) => (.ok none, { system with sent := system.sent ++ [(peer, msg)] })
  | .ok (.ends ending) =>
    let (result, env) := exec (ending.perform fun _ _ => return ()) system.env
    (result, { system with env })

variable [DecidableEq Peer] [DecidableEq Worker]

/-- A request to a peer. -/
def ask (worker : Peer → Worker) (system : System Peer Worker Env) (peer : Peer)
    (request : Request Unit Env) : Except Failure (Option String) × System Peer Worker Env :=
  let (answer, process) := system.process.ask worker (peer, request)
  { system with process }.perform peer answer

/-- Peers pack their arguments, and a reply carries the id of the frame that it answers. -/
def handle (worker : Peer → Worker) (system : System Peer Worker Env) :
    Event interface Peer Env → Except Failure (Option String) × System Peer Worker Env
  | .bind peer type handler => system.ask worker peer (.bind type handler.binding)
  | .callCb peer type cb values timeout =>
    system.ask worker peer (.operate (.callCb () type cb (Tuple.packed _ values) timeout))
  | .call peer type values =>
    system.ask worker peer (.operate (.call () type (Tuple.packed _ values)))
  | .deliver index peer =>
    match system.sent[index]? with
    | none => (.ok none, system)
    | some (_, frame) => system.ask worker peer (.route (some frame))
  | .reply index answer =>
    match system.sent[index]? with
    | none => (.ok none, system)
    | some (caller, frame) =>
      system.ask worker caller
        (.operate (.dealResult (some { answer with rpcid := frame.rpcid })))

/-- One step of a run, which ends with a handler or a callback that is undefined. -/
def step (worker : Peer → Worker) : Option (System Peer Worker Env) → Event interface Peer Env →
    Option (Except Failure (Option String)) × Option (System Peer Worker Env) :=
  stopping (handle worker) isUndefined

end System

/-! ### The directory -/

/-- A call that was made. -/
structure Call (interface : Interface) (Peer Env : Type) where
  caller : Peer
  type : CallType
  values : Tuple (interface.args type)
  cb : Callback Env

/-- The handlers that are bound, the calls that were made, and the state that handlers and
callbacks work on. -/
structure Directory (interface : Interface) (Peer Env : Type) where
  handlers : Peer → (type : CallType) → Option (Handler (interface.args type) Env)
  calls : List (Call interface Peer Env)
  env : Env

namespace Directory

/-- No handlers and no calls. -/
def start (env : Env) : Directory interface Peer Env where
  handlers _ _ := none
  calls := []
  env

/-- The handler of a peer is invoked, if there is one. -/
def invoke (directory : Directory interface Peer Env) (peer : Peer) (type : CallType)
    (values : Tuple (interface.args type)) :
    Except Failure (Option String) × Directory interface Peer Env :=
  match directory.handlers peer type with
  | none => (.ok none, directory)
  | some handler =>
    let (result, env) := handler.invoke values directory.env
    (result.map some, { directory with env })

/-- The callback of a call is invoked on the text of a reply, if the reply reports success. -/
def settle (directory : Directory interface Peer Env) (call : Call interface Peer Env)
    (answer : RpcResultMsg) : Except Failure (Option String) × Directory interface Peer Env :=
  if answer.state = 0 then (.ok none, directory)
  else
    let (ended, env) := exec (call.cb (replyText answer)) directory.env
    (ended.map fun _ => none, { directory with env })

variable [DecidableEq Peer]

/-- Binding a handler, calling a peer and answering, without any frames. -/
def handle (directory : Directory interface Peer Env) :
    Event interface Peer Env →
      Except Failure (Option String) × Directory interface Peer Env
  | .bind peer type handler =>
    (.ok none, { directory with
      handlers := Function.update directory.handlers peer
        (Function.update (directory.handlers peer) type (some handler)) })
  | .callCb peer type cb values _ =>
    (.ok none, { directory with
      calls := directory.calls ++ [{ caller := peer, type, values, cb }] })
  | .call peer type values => directory.invoke peer type values
  | .deliver index peer =>
    match directory.calls[index]? with
    | none => (.ok none, directory)
    | some call => directory.invoke peer call.type call.values
  | .reply index answer =>
    match directory.calls[index]? with
    | none => (.ok none, directory)
    | some call => directory.settle call answer

/-- One step of a run, which ends with a handler or a callback that is undefined. -/
def step : Option (Directory interface Peer Env) → Event interface Peer Env →
    Option (Except Failure (Option String)) × Option (Directory interface Peer Env) :=
  stopping handle isUndefined

end Directory

/-- The arguments of a call can be packed and fit into a frame, and the size of a reply is that of
data behind a header. -/
def Event.Fits : Event interface Peer Env → Prop
  | .bind _ _ _ => True
  | .callCb _ _ _ values _ =>
    ∃ bytes, packArgs (Tuple.packed _ values) = .ok bytes ∧ bytes.length ≤ dataCapacity
  | .call _ _ values => ∃ bytes, packArgs (Tuple.packed _ values) = .ok bytes
  | .deliver _ _ => True
  | .reply _ answer => answer.size.toNat ≤ dataCapacity

/-! ### What a request does to a process -/

theorem IdWorker.genId_toNat (worker : IdWorker) (few : worker.curId.toNat + 1 < 2 ^ 64) :
    (worker.genId).1.toNat = worker.curId.toNat + 1 := by
  show ((worker.curId &&& maxId) + 1).toNat = _
  rw [and_maxId, UInt64.toNat_add]
  exact Nat.mod_eq_of_lt few

/-- A request that binds nothing and registers only under the id that it draws. -/
def Request.Own (request : Request Unit Env) : Prop :=
  request.binds = none ∧ ∀ next known, request.registers next = some known →
    ∃ reading, request.reading = some reading ∧ known.1 = next reading

theorem Request.own_operate (operation : Operation Unit Env) : (Request.operate operation).Own := by
  refine ⟨rfl, fun next known registers => ?_⟩
  obtain ⟨⟨reading, object⟩, found, rfl⟩ := Option.map_eq_some_iff.mp registers
  exact ⟨reading, Operation.reading_of_registers found, rfl⟩

/-- A client has gone on without binding anything, by one id at most. -/
structure Client.Advanced (before after : Client IdWorker Env) : Prop where
  functionMap : after.self.functionMap = before.self.functionMap
  kept : ∀ (id : UInt64) target, before.self.callbackMap[id]? = some target →
    after.self.callbackMap[id]? = some target
  added : ∀ id ∈ after.self.callbackMap, id ∈ before.self.callbackMap ∨
    id.toNat = after.idWorker.curId.toNat
  lower : before.idWorker.curId.toNat ≤ after.idWorker.curId.toNat
  upper : after.idWorker.curId.toNat ≤ before.idWorker.curId.toNat + 1

theorem Request.advanced {request : Request Unit Env} (own : request.Own)
    (client : Client IdWorker Env) (few : client.idWorker.curId.toNat + 1 < 2 ^ 64) :
    client.Advanced (request.after client) := by
  have drawn := client.idWorker.genId_toNat few
  obtain ⟨binds, registers⟩ := own
  rw [request.after_eq, binds]
  rcases known : request.registers client.nextId with _ | ⟨id, object⟩
  · rcases request.reading with _ | reading
    · exact ⟨rfl, fun _ _ => id, fun _ => Or.inl, le_rfl, Nat.le_succ _⟩
    · exact ⟨rfl, fun _ _ => id, fun _ => Or.inl, drawn ▸ Nat.le_succ _, drawn.le⟩
  · obtain ⟨reading, read, rfl⟩ := registers client.nextId (id, object) known
    rw [read]
    refine ⟨rfl, fun other target found => ?_, fun other member => ?_, drawn ▸ Nat.le_succ _,
      drawn.le⟩
    · show (client.self.callbackMap.insertIfNew _ _)[other]? = some target
      rw [getElem?_insertIfNew_or, found]
      rfl
    · rcases Std.HashMap.mem_insertIfNew.mp member with same | earlier
      · exact Or.inr (congrArg UInt64.toNat (eq_of_beq same)).symm
      · exact Or.inl earlier

/-! ### Peers and their directory -/

/-- A frame that carries the arguments of a call, while its sender keeps the callback of the call
under the id of the frame. -/
def SentFor (process : Process Peer Worker IdWorker Env) (frame : Peer × RpcMsg)
    (call : Call interface Peer Env) : Prop :=
  frame.1 = call.caller ∧ ∃ (id : UInt64) (bytes : List UInt8) (target : SharedPtr (RpcCB Env)),
    packArgs (Tuple.packed _ call.values) = .ok bytes ∧
    Client.Carries frame.2 id call.type bytes ∧ id.toNat < 2 ^ 32 ∧
    (process.objects call.caller).callbackMap[id]? = some target ∧ target.object.cb = call.cb

/-- Peers that a directory describes, with so many steps left. -/
structure Represents (worker : Peer → Worker) (remaining : ℕ) (system : System Peer Worker Env)
    (directory : Directory interface Peer Env) : Prop where
  handlers : ∀ peer type, (system.process.objects peer).functionMap[type]? =
    (directory.handlers peer type).map fun handler => handler.binding.wrapper
  sent : List.Forall₂ (SentFor system.process) system.sent directory.calls
  env : system.env = directory.env
  counted : ∀ peer, ∀ id ∈ (system.process.objects peer).callbackMap,
    id.toNat ≤ (system.process.idWorkers (worker peer)).curId.toNat
  few : ∀ one, (system.process.idWorkers one).curId.toNat + remaining < 2 ^ 32

section

variable {worker : Peer → Worker} {remaining : ℕ} {system : System Peer Worker Env}
  {directory : Directory interface Peer Env}

/-- Working on the environment alone leaves the peers described. -/
theorem Represents.with_env (represents : Represents worker remaining system directory)
    (env : Env) :
    Represents worker remaining { system with env } { directory with env } :=
  { represents with env := rfl }

/-- What the handler of a peer is started on. -/
def Directory.reached (directory : Directory interface Peer Env) (peer : Peer) (type : CallType)
    (bytes : List UInt8) : Ending Env :=
  match directory.handlers peer type with
  | none => .idle
  | some handler => .handler handler.binding.wrapper bytes

/-- Running the handler of a peer on the packed values of a call invokes it on the values. -/
theorem Represents.perform_reached (represents : Represents worker remaining system directory)
    (peer other : Peer) (type : CallType) {values : Tuple (interface.args type)}
    {bytes : List UInt8} (packed : packArgs (Tuple.packed _ values) = .ok bytes) :
    (system.perform other (.ok (.ends (directory.reached peer type bytes)))).1 =
        (directory.invoke peer type values).1 ∧
      Represents worker remaining
        (system.perform other (.ok (.ends (directory.reached peer type bytes)))).2
        (directory.invoke peer type values).2 := by
  have unpacked := unpack_of_adapted interface.shallow (interface.adapted type) packed []
  rw [List.append_nil] at unpacked
  rw [Directory.reached, Directory.invoke]
  rcases directory.handlers peer type with _ | handler
  · exact ⟨rfl, represents⟩
  · have ran : exec ((Ending.handler handler.binding.wrapper bytes).perform
        fun _ _ => return ()) system.env =
        ((handler.invoke values directory.env).1.map some,
          (handler.invoke values directory.env).2) := by
      rw [Ending.perform, exec_bind_pure, handler.exec_wrapper unpacked, represents.env]
    dsimp only [System.perform]
    rw [ran]
    exact ⟨rfl, represents.with_env _⟩

/-- A call that a peer makes to itself reaches the handler that the directory has. -/
theorem Represents.testLocalCall (represents : Represents worker remaining system directory)
    (peer : Peer) (type : CallType) {args : List Packed} {bytes : List UInt8}
    (packed : packArgs args = .ok bytes) :
    (system.process.objects peer).testLocalCall type args =
      .ok (directory.reached peer type bytes) := by
  rw [RpcBase.testLocalCall, represents.handlers, packed, Directory.reached]
  rcases directory.handlers peer type with _ | handler <;> rfl

/-- A frame reaches the handler that the directory has. -/
theorem Represents.route (represents : Represents worker remaining system directory)
    (peer : Peer) {frame : RpcMsg} {id : UInt64} {type : CallType} {bytes : List UInt8}
    (carries : Client.Carries frame id type bytes) :
    (system.process.objects peer).route (some frame) =
      .ok (directory.reached peer type bytes) := by
  rw [RpcBase.route, RpcBase.dispatch, carries.type, represents.handlers, carries.data,
    Directory.reached]
  rcases directory.handlers peer type with _ | handler <;> rfl

/-- A reply invokes the callback of the call that it answers. -/
theorem SentFor.dealResult {process : Process Peer Worker IdWorker Env} {frame : Peer × RpcMsg}
    {call : Call interface Peer Env} (sent : SentFor process frame call) (answer : RpcResultMsg)
    (fits : answer.size.toNat ≤ dataCapacity) (success : answer.state ≠ 0) :
    ∃ target, target.object.cb = call.cb ∧
      (process.objects frame.1).dealResult
          (some { answer with rpcid := frame.2.rpcid }) =
        .ok (.callback target (replyText answer)) := by
  obtain ⟨caller, id, bytes, target, packed, carries, small, found, callback⟩ := sent
  have wide : frame.2.rpcid.toUInt64 = id := by
    refine UInt64.toNat_inj.mp ?_
    rw [UInt32.toNat_toUInt64, carries.rpcid, UInt64.toNat_toUInt32, Nat.mod_eq_of_lt small]
  refine ⟨target, callback, ?_⟩
  rw [RpcBase.dealResult, if_neg success]
  dsimp only
  rw [wide, caller, found, copyData_eq_ok fits]
  rfl

/-- The two lists of a relation have entries at the same places. -/
theorem getElem?_cases {First Second : Type*} {related : First → Second → Prop}
    {first : List First} {second : List Second} (pairs : List.Forall₂ related first second)
    (index : ℕ) : (first[index]? = none ∧ second[index]? = none) ∨
      ∃ one other, first[index]? = some one ∧ second[index]? = some other ∧ related one other := by
  induction pairs generalizing index with
  | nil => exact Or.inl ⟨rfl, rfl⟩
  | cons pair pairs inductionHypothesis =>
    cases index with
    | zero => exact Or.inr ⟨_, _, rfl, rfl, pair⟩
    | succ index => exact inductionHypothesis index

/-! ### One step -/

variable [DecidableEq Peer] [DecidableEq Worker]

theorem System.ask_eq (worker : Peer → Worker) (system : System Peer Worker Env) (peer : Peer)
    (request : Request Unit Env) :
    system.ask worker peer request =
      ({ system with process := (system.process.ask worker (peer, request)).2 } :
        System Peer Worker Env).perform peer
          (request.result (system.process.client worker peer)) := by
  rw [System.ask, Process.ask_eq]

/-- The steps that bind nothing leave the peers described. -/
theorem Represents.advance (represents : Represents worker (remaining + 1) system directory)
    (peer : Peer) {request : Request Unit Env} (own : request.Own) :
    Represents worker remaining
      { system with process := (system.process.ask worker (peer, request)).2 } directory := by
  have few := represents.few (worker peer)
  have advanced := Request.advanced own (system.process.client worker peer)
    (show (system.process.idWorkers (worker peer)).curId.toNat + 1 < 2 ^ 64 by omega)
  rw [Process.ask_eq]
  generalize request.after (system.process.client worker peer) = after at advanced
  have kept : ∀ other (id : UInt64) target,
      (system.process.objects other).callbackMap[id]? = some target →
        (Function.update system.process.objects peer after.self other).callbackMap[id]? =
          some target :=
    (Function.forall_update_iff system.process.objects fun other base =>
      ∀ (id : UInt64) target, (system.process.objects other).callbackMap[id]? = some target →
        base.callbackMap[id]? = some target).mpr ⟨advanced.kept, fun _ _ _ _ => id⟩
  have lower : ∀ one, (system.process.idWorkers one).curId.toNat ≤
      (Function.update system.process.idWorkers (worker peer) after.idWorker one).curId.toNat :=
    (Function.forall_update_iff system.process.idWorkers fun one generator =>
      (system.process.idWorkers one).curId.toNat ≤ generator.curId.toNat).mpr
        ⟨advanced.lower, fun _ _ => Nat.le_refl _⟩
  refine ⟨?_, ?_, represents.env, ?_, ?_⟩
  · refine (Function.forall_update_iff system.process.objects fun other base =>
      ∀ type : CallType, base.functionMap[type]? =
        (directory.handlers other type).map fun handler => handler.binding.wrapper).mpr
          ⟨fun type => ?_, fun other _ => represents.handlers other⟩
    rw [advanced.functionMap]
    exact represents.handlers peer type
  · refine represents.sent.imp fun frame call sent => ?_
    obtain ⟨caller, id, bytes, target, packed, carries, small, found, callback⟩ := sent
    exact ⟨caller, id, bytes, target, packed, carries, small, kept _ id target found, callback⟩
  · have earlier : ∀ other, ∀ id ∈ (system.process.objects other).callbackMap, id.toNat ≤
        (Function.update system.process.idWorkers (worker peer) after.idWorker
          (worker other)).curId.toNat :=
      fun other id before => (represents.counted other id before).trans (lower (worker other))
    refine (Function.forall_update_iff system.process.objects fun other base =>
      ∀ id ∈ base.callbackMap, id.toNat ≤ (Function.update system.process.idWorkers (worker peer)
        after.idWorker (worker other)).curId.toNat).mpr
          ⟨fun id member => ?_, fun other _ => earlier other⟩
    refine (advanced.added id member).elim (earlier peer id) fun drawn => ?_
    rw [Function.update_self, drawn]
  · refine (Function.forall_update_iff system.process.idWorkers fun one generator =>
      generator.curId.toNat + remaining < 2 ^ 32).mpr ⟨?_, fun one _ => ?_⟩
    · have upper : after.idWorker.curId.toNat ≤
        (system.process.idWorkers (worker peer)).curId.toNat + 1 := advanced.upper
      omega
    · have := represents.few one
      omega

/-- A request that starts the handler of its peer on a packed call does what the directory does. -/
theorem Represents.ask (represents : Represents worker (remaining + 1) system directory)
    (peer : Peer) {request : Request Unit Env} (own : request.Own) {type : CallType}
    {values : Tuple (interface.args type)} {bytes : List UInt8}
    (packed : packArgs (Tuple.packed _ values) = .ok bytes)
    (answered : request.result (system.process.client worker peer) =
      .ok (.ends (directory.reached peer type bytes))) :
    (system.ask worker peer request).1 = (directory.invoke peer type values).1 ∧
      Represents worker remaining (system.ask worker peer request).2
        (directory.invoke peer type values).2 := by
  rw [System.ask_eq, answered]
  exact (represents.advance peer own).perform_reached peer peer type packed

/-- Binding a handler changes the table of its peer and nothing else. -/
theorem System.handle_bind (worker : Peer → Worker) (system : System Peer Worker Env) (peer : Peer)
    (type : CallType) (handler : Handler (interface.args type) Env) :
    system.handle worker (.bind peer type handler : Event interface Peer Env) =
      (.ok none, { system with process := { system.process with
        objects := Function.update system.process.objects peer
          ((system.process.objects peer).bind type handler.binding) } }) := by
  have asked := System.ask_eq worker system peer (.bind type handler.binding)
  rw [Process.ask_eq] at asked
  refine asked.trans ?_
  show (Except.ok none, System.mk (Process.mk _ (Function.update system.process.idWorkers
    (worker peer) (system.process.idWorkers (worker peer))) _) _ _) = _
  rw [Function.update_eq_self]
  rfl

/-- Binding a handler enters it in the directory. -/
theorem Represents.bind (represents : Represents worker (remaining + 1) system directory)
    (peer : Peer) (type : CallType) (handler : Handler (interface.args type) Env) :
    Represents worker remaining
      (system.handle worker (.bind peer type handler : Event interface Peer Env)).2
      (directory.handle (.bind peer type handler)).2 := by
  rw [System.handle_bind]
  have callbackMap : ∀ other, (Function.update system.process.objects peer
      ((system.process.objects peer).bind type handler.binding) other).callbackMap =
        (system.process.objects other).callbackMap :=
    (Function.forall_update_iff system.process.objects fun other base =>
      base.callbackMap = (system.process.objects other).callbackMap).mpr
        ⟨rfl, fun _ _ => rfl⟩
  refine ⟨fun other wanted => ?_, ?_, represents.env, fun other id member => ?_, fun one => ?_⟩
  · dsimp only [Directory.handle]
    by_cases same : other = peer
    · subst same
      rw [Function.update_self, Function.update_self]
      exact @RpcBase.functionMap_bind Env _ (fun type => Handler (interface.args type) Env) _
        (fun _ handler => handler.binding) (represents.handlers other) type handler wanted
    · rw [Function.update_of_ne same, Function.update_of_ne same]
      exact represents.handlers other wanted
  · refine represents.sent.imp fun frame call sent => ?_
    obtain ⟨caller, id, bytes, target, packed, carries, small, found, callback⟩ := sent
    refine ⟨caller, id, bytes, target, packed, carries, small, ?_, callback⟩
    rw [← callbackMap] at found
    exact found
  · exact represents.counted other id (callbackMap other ▸ member)
  · have := represents.few one
    show (system.process.idWorkers one).curId.toNat + remaining < 2 ^ 32
    omega

/-- A `callCb` puts a frame on the network that carries its values, and keeps its callback. -/
theorem Represents.callCb (represents : Represents worker (remaining + 1) system directory)
    (peer : Peer) (type : CallType) (cb : Callback Env) (values : Tuple (interface.args type))
    (timeout : UInt32) {bytes : List UInt8}
    (packed : packArgs (Tuple.packed _ values) = .ok bytes) (fits : bytes.length ≤ dataCapacity) :
    (system.handle worker (.callCb peer type cb values timeout : Event interface Peer Env)).1 =
        .ok none ∧
      Represents worker remaining
        (system.handle worker (.callCb peer type cb values timeout : Event interface Peer Env)).2
        (directory.handle (.callCb peer type cb values timeout)).2 := by
  let client := system.process.client worker peer
  let operation : Operation Unit Env := .callCb () type cb (Tuple.packed _ values) timeout
  obtain ⟨send, sends, carries⟩ := Client.callCb_sends client () type cb timeout packed fits
  have result : operation.result client = .ok (.sendMsg send send.getSize) :=
    (congrArg Prod.fst (operation.exec_run client)).symm.trans sends
  have asked := System.ask_eq worker system peer (.operate operation)
  have answered : (Request.operate operation).result client =
      .ok (.ends (.sendMsg send send.getSize)) := congrArg (Except.map Answer.ends) result
  rw [answered] at asked
  have advanced := represents.advance peer (Request.own_operate operation)
  have few := represents.few (worker peer)
  have drawn : (client.nextId ()).toNat =
      (system.process.idWorkers (worker peer)).curId.toNat + 1 :=
    IdWorker.genId_toNat (system.process.idWorkers (worker peer)) (by omega)
  have fresh : (system.process.objects peer).callbackMap[client.nextId ()]? = none := by
    refine Std.HashMap.getElem?_eq_none fun member => ?_
    have := represents.counted peer _ member
    omega
  have found : (((system.process.ask worker (peer, .operate operation)).2.objects
      peer).callbackMap)[client.nextId ()]? =
        some (client.nextCallback { cb, timeout := timeout.toUInt64 }) := by
    rw [Process.ask_eq, Request.after_eq]
    show (Function.update system.process.objects peer _ peer).callbackMap[_]? = _
    rw [Function.update_self]
    show ((system.process.objects peer).callbackMap.insertIfNew _ _)[_]? = _
    rw [getElem?_insertIfNew_or, fresh, if_pos rfl]
    rfl
  refine ⟨congrArg Prod.fst asked, ?_⟩
  show Represents worker remaining (system.ask worker peer (.operate operation)).2 _
  rw [asked]
  refine { advanced with sent := List.rel_append advanced.sent (.cons ?_ .nil) }
  exact ⟨rfl, client.nextId (), bytes, _, packed, carries, by omega, found, rfl⟩

/-- A reply to a call does what the directory does. -/
theorem Represents.settle (represents : Represents worker (remaining + 1) system directory)
    {frame : Peer × RpcMsg} {call : Call interface Peer Env}
    (sent : SentFor system.process frame call) (answer : RpcResultMsg)
    (fits : answer.size.toNat ≤ dataCapacity) :
    (system.ask worker frame.1
        (.operate (.dealResult (some { answer with rpcid := frame.2.rpcid })))).1 =
      (directory.settle call answer).1 ∧
    Represents worker remaining (system.ask worker frame.1
        (.operate (.dealResult (some { answer with rpcid := frame.2.rpcid })))).2
      (directory.settle call answer).2 := by
  have advanced := represents.advance frame.1 (Request.own_operate
    (.dealResult (some { answer with rpcid := frame.2.rpcid })))
  have answered : ∀ ending, (system.process.objects frame.1).dealResult
      (some { answer with rpcid := frame.2.rpcid }) = .ok ending →
        (Request.operate (.dealResult (some { answer with rpcid := frame.2.rpcid }))).result
          (system.process.client worker frame.1) = .ok (.ends ending) :=
    fun ending => congrArg (Except.map Answer.ends)
  rw [System.ask_eq, Directory.settle]
  by_cases failed : answer.state = 0
  · have ignored : (system.process.objects frame.1).dealResult
        (some { answer with rpcid := frame.2.rpcid }) = .ok .idle := by
      rw [RpcBase.dealResult, if_pos failed]
    rw [if_pos failed, answered _ ignored]
    exact ⟨rfl, advanced⟩
  · obtain ⟨target, callback, reached⟩ := sent.dealResult answer fits failed
    have ran : exec ((Ending.callback target (replyText answer)).perform fun _ _ => return ())
        system.env = ((exec (call.cb (replyText answer)) directory.env).1.map fun _ => none,
          (exec (call.cb (replyText answer)) directory.env).2) := by
      rw [← callback, ← represents.env]
      exact exec_bind_pure (target.object.cb _) (fun _ => none) system.env
    rw [if_neg failed, answered _ reached]
    dsimp only [System.perform]
    rw [ran]
    exact ⟨rfl, advanced.with_env _⟩

/-- What the peers do is what their directory does. -/
theorem handle_simulates (worker : Peer → Worker) :
    Simulates (System.handle worker)
      (Directory.handle : _ → Event interface Peer Env → _ × Directory interface Peer Env)
      fun events system directory => (∀ event ∈ events, event.Fits) ∧
        Represents worker events.length system directory := by
  rintro event rest system directory ⟨fits, represents⟩
  obtain ⟨now, later⟩ := List.forall_mem_cons.mp fits
  rw [List.length_cons] at represents
  have skipped : Represents worker rest.length system directory :=
    { represents with few := fun one => (represents.few one).trans' (by omega) }
  cases event with
  | bind peer type handler =>
    refine ⟨?_, later, represents.bind peer type handler⟩
    rw [System.handle_bind]
    rfl
  | callCb peer type cb values timeout =>
    obtain ⟨bytes, packed, small⟩ := now
    obtain ⟨same, next⟩ := represents.callCb peer type cb values timeout packed small
    exact ⟨same, later, next⟩
  | call peer type values =>
    obtain ⟨bytes, packed⟩ := now
    have answered := congrArg (Except.map Answer.ends)
      (represents.testLocalCall peer type packed)
    obtain ⟨same, next⟩ := represents.ask peer
      (Request.own_operate (.call () type (Tuple.packed _ values))) packed answered
    exact ⟨same, later, next⟩
  | deliver index peer =>
    dsimp only [System.handle, Directory.handle]
    obtain ⟨unsent, uncalled⟩ | ⟨frame, call, sent, called, pair⟩ :=
      getElem?_cases represents.sent index
    · rw [unsent, uncalled]
      exact ⟨rfl, later, skipped⟩
    · rw [sent, called]
      obtain ⟨-, id, bytes, target, packed, carries, -⟩ := pair
      have own : (Request.route (some frame.2) : Request Unit Env).Own :=
        ⟨rfl, fun _ _ registers => nomatch registers⟩
      have answered := congrArg (Except.map Answer.ends) (represents.route peer carries)
      obtain ⟨same, next⟩ := represents.ask peer own packed answered
      exact ⟨same, later, next⟩
  | reply index answer =>
    dsimp only [System.handle, Directory.handle]
    obtain ⟨unsent, uncalled⟩ | ⟨frame, call, sent, called, pair⟩ :=
      getElem?_cases represents.sent index
    · rw [unsent, uncalled]
      exact ⟨rfl, later, skipped⟩
    · rw [sent, called]
      obtain ⟨same, next⟩ := represents.settle pair answer now
      exact ⟨same, later, next⟩

/-- Each step of the peers is the step of their directory. -/
theorem remote_simulates (worker : Peer → Worker) :
    Simulates (System.step worker)
      (Directory.step : _ → Event interface Peer Env → _ × Option (Directory interface Peer Env))
      fun events => Option.Rel fun system directory => (∀ event ∈ events, event.Fits) ∧
        Represents worker events.length system directory :=
  (handle_simulates worker).stopping isUndefined

/-- Over every run of fewer than `2 ^ 32` steps, with arguments that fit into frames, the peers do
what their directory does: they end each step alike, and leave the same environment behind, up to
and with the first handler or callback that is undefined. -/
theorem remote_calls_are_local (interface : Interface) (worker : Peer → Worker) (env : Env)
    (events : List (Event interface Peer Env)) (fits : ∀ event ∈ events, event.Fits)
    (few : events.length < 2 ^ 32) :
    outputs (System.step worker) (some (System.start env)) events =
        outputs Directory.step (some (Directory.start env)) events ∧
      (final (System.step worker) (some (System.start env)) events).map System.env =
        (final Directory.step (some (Directory.start env)) events).map Directory.env := by
  have represents : Represents worker events.length (System.start env : System Peer Worker Env)
      (Directory.start env : Directory interface Peer Env) := {
    handlers := fun _ _ => Std.HashMap.getElem?_empty
    sent := .nil
    env := rfl
    counted := fun _ _ member => absurd member Std.HashMap.not_mem_empty
    few := fun _ => (Nat.zero_add _).trans_lt few }
  refine ⟨(remote_simulates worker).outputs_eq (.some ⟨fits, represents⟩), ?_⟩
  have ended := (remote_simulates worker).final_related (.some ⟨fits, represents⟩)
  generalize final (System.step worker) (some (System.start env)) events = system at ended ⊢
  generalize final Directory.step (some (Directory.start env)) events = directory at ended ⊢
  cases ended with
  | some describes => exact congrArg some describes.2.env
  | none => rfl

end

/-- Every call has one `int`. -/
def oneInt : Interface where
  args _ := [int]
  depth := 0
  shallow := by decide
  adapted _ := List.forall_mem_singleton.mpr (.integer .int32)

/-- A call is delivered twice and then answered. The handler and the callback take notes. -/
def twoDeliveries : List (Event oneInt Bool (List (BitVec 32))) :=
  [.bind true .session (.function true fun values => modify (· ++ [values.1])),
    .callCb false .session (fun _ => modify (· ++ [0])) (5#32, ()) 0,
    .deliver 0 true, .deliver 0 true, .reply 0 (emptyReply 7)]

theorem remote_calls_are_local_twice :
    outputs (System.step fun _ => ()) (some (System.start [])) twoDeliveries =
        [some (.ok none), some (.ok none), some (.ok (some "invoke return void. OK")),
          some (.ok (some "invoke return void. OK")), some (.ok none)] ∧
      (final (System.step fun _ => ()) (some (System.start [])) twoDeliveries).map System.env =
        some [5, 5, 0] :=
  remote_calls_are_local oneInt (fun _ => ()) [] twoDeliveries
    (List.forall_mem_cons.mpr ⟨trivial, List.forall_mem_cons.mpr ⟨⟨[0x91, 5], rfl, by decide⟩,
      List.forall_mem_cons.mpr ⟨trivial, List.forall_mem_cons.mpr ⟨trivial,
        List.forall_mem_singleton.mpr (Nat.zero_le dataCapacity)⟩⟩⟩⟩) (by decide)

end RpcInstance
