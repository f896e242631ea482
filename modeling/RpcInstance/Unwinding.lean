/-
This file is about operations that an exception unwinds: what it leaves of what
the operation did before.

Nothing is undone. `callCb` draws its id and registers its callback before it
packs the arguments and sends the frame, so a call that fails in packing or in
sending has the same entry in the callback map as a call that was sent.
-/

import RpcInstance.Correlation

namespace RpcInstance

open Code Msgpack

variable {Generator Input Env : Type} [IdGenerator Generator Input]

/-! ### Operations with the code they end in -/

namespace Operation

/-- An operation, and the code from outside that it ends in, with the `sendMsg` of the object's
class. -/
def perform (sendMsg : RpcMsg → UInt32 → Code Env Unit) (operation : Operation Input Env) :
    Code (Client Generator Env × Env) (Option String) := do
  let ending ← onFirst operation.run
  onSecond (ending.perform sendMsg)

variable {sendMsg : RpcMsg → UInt32 → Code Env Unit} {operation : Operation Input Env}
  {client : Client Generator Env} {env : Env}

theorem exec_perform_of_error {failure : Failure}
    (fails : operation.result client = .error failure) :
    exec (operation.perform sendMsg) (client, env) =
      (.error failure, operation.after client, env) := by
  rw [perform, exec_bind, exec_onFirst, exec_run, fails]

theorem exec_perform_of_ok {ending : Ending Env} (ends : operation.result client = .ok ending) :
    exec (operation.perform sendMsg) (client, env) =
      ((exec (ending.perform sendMsg) env).1, operation.after client,
        (exec (ending.perform sendMsg) env).2) := by
  rw [perform, exec_bind, exec_onFirst, exec_run, ends]
  exact exec_onSecond _ _

/-- However an operation is left, the object is left in the same state. -/
theorem exec_perform_client :
    (exec (operation.perform sendMsg) (client, env)).2.1 = operation.after client := by
  rcases ends : operation.result client with failure | ending
  · rw [exec_perform_of_error ends]
  · rw [exec_perform_of_ok ends]

end Operation

/-! ### Calls that fail -/

/-- A `callCb` that throws: its arguments do not pack, or the `sendMsg` that it hands its frame to
throws. -/
def CallCbThrows (client : Client Generator Env) (reading : Input) (type : CallType)
    (args : List Packed) (sendMsg : RpcMsg → UInt32 → Code Env Unit) (env : Env)
    (what : Thrown) : Prop :=
  packArgs args = .error what ∨
    ∃ bytes frame, packArgs args = .ok bytes ∧
      Client.createMsg (client.nextId reading) type bytes = .ok frame ∧
      (exec (sendMsg frame frame.getSize) env).1 = .error (.thrown what)

theorem exec_callCb_of_throws {client : Client Generator Env} {reading : Input} {type : CallType}
    {args : List Packed} {sendMsg : RpcMsg → UInt32 → Code Env Unit} {env : Env} {what : Thrown}
    (throws : CallCbThrows client reading type args sendMsg env what) (cb : Callback Env)
    (timeout : UInt32) :
    (exec ((Operation.callCb reading type cb args timeout).perform sendMsg) (client, env)).1 =
      .error (.thrown what) := by
  rcases throws with refused | ⟨bytes, frame, packed, created, refused⟩
  · have fails : (Operation.callCb reading type cb args timeout).result client =
        .error (.thrown what) := by
      rw [Operation.result, refused]
      rfl
    rw [Operation.exec_perform_of_error fails]
  · have ends : (Operation.callCb reading type cb args timeout).result client =
        .ok (.sendMsg frame frame.getSize) := by
      refine map_eq_ok_iff.mpr ⟨frame, bind_eq_ok_iff.mpr ⟨bytes, ?_, created⟩, rfl⟩
      exact mapError_eq_ok_iff.mpr packed
    rw [Operation.exec_perform_of_ok ends, Ending.perform, exec_bind]
    rcases left : exec (sendMsg frame frame.getSize) env with ⟨result, after⟩
    rw [left] at refused
    obtain rfl : result = .error (.thrown what) := refused
    rfl

/-- A map stays as it is when an entry is emplaced exactly when the key is there already. -/
theorem insertIfNew_eq_iff {Value : Type} (map : Std.HashMap UInt64 Value) (id : UInt64)
    (value : Value) :
    (∀ key : UInt64, (map.insertIfNew id value)[key]? = map[key]?) ↔ id ∈ map := by
  constructor
  · intro same
    have found := same id
    rw [getElem?_insertIfNew_or, if_pos rfl] at found
    by_contra absent
    rw [Std.HashMap.getElem?_eq_none absent] at found
    cases found
  · intro present key
    rw [getElem?_insertIfNew_or]
    by_cases here : id = key
    · subst here
      rw [Std.HashMap.getElem?_eq_some_getElem present]
      rfl
    · rw [if_neg here, Option.or_none]

/-- An exception from packing the arguments or from `sendMsg` leaves `callCb`, and the callback map
has gained the callback of the call: it is as it was before exactly where the id was taken. -/
theorem failed_callCb_registered (client : Client Generator Env) (reading : Input)
    (type : CallType) (cb : Callback Env) (args : List Packed) (timeout : UInt32)
    (sendMsg : RpcMsg → UInt32 → Code Env Unit) (env : Env) (what : Thrown)
    (throws : CallCbThrows client reading type args sendMsg env what) :
    ∃ after afterEnv,
      exec ((Operation.callCb reading type cb args timeout).perform sendMsg) (client, env) =
        (.error (.thrown what), after, afterEnv) ∧
      after.self.functionMap = client.self.functionMap ∧
      (∀ key : UInt64, after.self.callbackMap[key]? = client.self.callbackMap[key]?.or
        (if client.nextId reading = key then
          some ⟨client.allocated, { cb, timeout := timeout.toUInt64 }⟩ else none)) ∧
      ((∀ key : UInt64, after.self.callbackMap[key]? = client.self.callbackMap[key]?) ↔
        client.nextId reading ∈ client.self.callbackMap) := by
  have left := exec_callCb_of_throws throws cb timeout
  have state : (exec ((Operation.callCb reading type cb args timeout).perform sendMsg)
      (client, env)).2.1 = (client.drawn reading).registered (client.nextId reading)
        { cb, timeout := timeout.toUInt64 } := Operation.exec_perform_client
  refine ⟨_, _, Prod.ext left (Prod.ext state rfl), rfl, ?_, ?_⟩
  · exact getElem?_insertIfNew_or client.self.callbackMap _ _
  · exact insertIfNew_eq_iff client.self.callbackMap _ _

/-- A client that has made no call. -/
def freshClient : Client IdWorker Unit := ⟨{}, {}, 0⟩

/-- A `callCb` with some arguments. -/
def callWith (args : List Packed) : Operation Unit Unit :=
  .callCb () CallType.session (fun _ => return ()) args 0

/-- What a `sendMsg` may throw. -/
def sendFailed : Thrown := .exception "send failed"

theorem failed_callCb_registered_overflow :
    (exec ((callWith [.error containerSizeOverflow]).perform fun _ _ => return ())
      (freshClient, ())).1 = .error (.thrown containerSizeOverflow) := by
  obtain ⟨after, afterEnv, left, -⟩ := failed_callCb_registered freshClient () CallType.session
    (fun _ => return ()) [.error containerSizeOverflow] 0 (fun _ _ => return ()) ()
    containerSizeOverflow (Or.inl rfl)
  exact congrArg Prod.fst left

/-- The callback of a first call stays registered, whether packing its arguments throws or sending
its frame. -/
theorem failed_callCb_not_undone :
    (1 : UInt64) ∉ freshClient.self.callbackMap ∧
    ((exec ((callWith [.error containerSizeOverflow]).perform fun _ _ => return ())
        (freshClient, ())).1 = .error (.thrown containerSizeOverflow) ∧
      (1 : UInt64) ∈ (exec ((callWith [.error containerSizeOverflow]).perform
        fun _ _ => return ()) (freshClient, ())).2.1.self.callbackMap) ∧
    ((exec ((callWith []).perform fun _ _ => throw (.thrown sendFailed)) (freshClient, ())).1 =
        .error (.thrown sendFailed) ∧
      (1 : UInt64) ∈ (exec ((callWith []).perform fun _ _ => throw (.thrown sendFailed))
        (freshClient, ())).2.1.self.callbackMap) := by
  refine ⟨Std.HashMap.not_mem_empty, ⟨?_, ?_⟩, ?_, ?_⟩
  · exact exec_callCb_of_throws (Or.inl rfl) _ _
  · rw [Operation.exec_perform_client]
    exact Std.HashMap.mem_insertIfNew_self
  · obtain ⟨frame, created, -⟩ := Client.createMsg_of_fits (freshClient.nextId ())
      CallType.session (show ([0x90] : List UInt8).length ≤ dataCapacity by decide)
    exact exec_callCb_of_throws (Or.inr ⟨[0x90], frame, rfl, created, rfl⟩) _ _
  · rw [Operation.exec_perform_client]
    exact Std.HashMap.mem_insertIfNew_self

end RpcInstance
