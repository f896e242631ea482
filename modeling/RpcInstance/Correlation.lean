/-
This file finds out what a reply reaches, over every run of a network.

The registrations of a run are kept by the callback maps: an entry is never
overwritten and never removed, so what a map holds under a key is the first
callback that was registered there under it. Where no id is drawn twice, that is
the only one, and a map is exactly the set of its registrations.
-/

import RpcInstance.Network

namespace RpcInstance

open Runs

variable {Object Generator Input Env : Type} [IdGenerator Generator Input]

/-- The steps of a run, each with the world it was taken in. -/
abbrev History (Object Generator Env Input : Type) :=
  List (World Object Generator Env × Act Object Input Env)

/-! ### What a run has drawn and registered -/

/-- The ids that a generator returns for some readings, in order. -/
def IdGenerator.ids (generator : Generator) (readings : List Input) : List UInt64 :=
  (history (fun generator reading => (IdGenerator.genId generator reading).2) generator
    readings).map fun entry => (IdGenerator.genId entry.1 entry.2).1

/-- The ids that the steps of a history drew, in order. -/
def drawnIds (past : History Object Generator Env Input) : List UInt64 :=
  past.filterMap fun entry => entry.1.draws entry.2

/-- What the steps of a history registered, in order. -/
def registrations (past : History Object Generator Env Input) :
    List (Registration Object Env) :=
  past.filterMap fun entry => entry.1.registers entry.2

/-- The readings that the steps of a run make, in order. -/
def readings (acts : List (Act Object Input Env)) : List Input :=
  acts.filterMap World.reading

theorem mem_registrations {past : History Object Generator Env Input}
    {registered : Registration Object Env} :
    registered ∈ registrations past ↔
      ∃ entry ∈ past, entry.1.registers entry.2 = some registered :=
  List.mem_filterMap

theorem registrations_sublist (past : History Object Generator Env Input) :
    ((registrations past).map Registration.id).Sublist (drawnIds past) := by
  induction past with
  | nil => exact List.Sublist.slnil
  | cons entry past inductionHypothesis =>
    unfold registrations drawnIds at *
    rw [List.filterMap_cons, List.filterMap_cons]
    rcases registered : entry.1.registers entry.2 with _ | registration
    · rcases entry.1.draws entry.2 with _ | id
      · exact inductionHypothesis
      · exact inductionHypothesis.cons id
    · rw [World.draws_of_registers registered]
      exact inductionHypothesis.cons_cons registration.id

theorem registrations_concat (past : History Object Generator Env Input)
    (world : World Object Generator Env) (act : Act Object Input Env) :
    registrations (past ++ [(world, act)]) =
      registrations past ++ (world.registers act).toList := by
  unfold registrations
  rw [List.filterMap_append, List.filterMap_cons, List.filterMap_nil]
  rcases world.registers act with _ | registered <;> rfl

theorem registers_address {world : World Object Generator Env} {act : Act Object Input Env}
    {registered : Registration Object Env} (registers : world.registers act = some registered) :
    registered.target.address = world.allocated := by
  cases act with
  | finish => cases registers
  | issue object operation =>
    obtain ⟨known, -, rfl⟩ := Option.map_eq_some_iff.mp registers
    rfl

/-- Inserting only where there is no entry yet. -/
theorem getElem?_insertIfNew_or {Value : Type} (map : Std.HashMap UInt64 Value) (key : UInt64)
    (value : Value) (other : UInt64) :
    (map.insertIfNew key value)[other]? =
      map[other]?.or (if key = other then some value else none) := by
  rw [Std.HashMap.getElem?_insertIfNew]
  by_cases same : key = other
  · subst same
    rw [if_pos rfl]
    by_cases present : key ∈ map
    · rw [if_neg fun absent => absent.2 present, Std.HashMap.getElem?_eq_some_getElem present]
      rfl
    · rw [if_pos ⟨beq_self_eq_true key, present⟩, Std.HashMap.getElem?_eq_none present]
      rfl
  · rw [if_neg fun equal => same (eq_of_beq equal.1), if_neg same, Option.or_none]

/-- The text that a reply hands to a callback. -/
def replyText (msg : RpcResultMsg) : List UInt8 :=
  cStr (msg.data.bytes.take msg.size.toNat)

/-- A successful reply without data. -/
def emptyReply (rpcid : UInt32) : RpcResultMsg where
  rpcid
  state := 1
  data := .zero dataCapacity

/-- A reply is handed to what its object's map holds under its id. -/
theorem ending_dealResult (world : World Object Generator Env) (object : Object)
    {msg : RpcResultMsg} (success : msg.state ≠ 0) :
    world.ending (.issue object (.dealResult (some msg))) =
      match (world.objects object).callbackMap[msg.rpcid.toUInt64]? with
      | none => .ok .idle
      | some target =>
        (copyData msg.data msg.size).map fun data => .callback target (cStr data) := by
  show (world.objects object).dealResult (some msg) = _
  rw [RpcBase.dealResult, if_neg success]
  rcases (world.objects object).callbackMap[msg.rpcid.toUInt64]? with _ | target
  · rfl
  · rcases copyData msg.data msg.size with failure | data <;> rfl

/-- The frame that a registering step hands to `sendMsg` carries the low half of the id. -/
theorem rpcid_of_sent {world : World Object Generator Env} {act : Act Object Input Env}
    {registered : Registration Object Env} {frame : RpcMsg} {size : UInt32}
    (registers : world.registers act = some registered)
    (sent : world.ending act = .ok (.sendMsg frame size)) :
    frame.rpcid = registered.id.toUInt32 := by
  obtain ⟨object, reading, type, cb, args, timeout, rfl, low⟩ := World.callCb_of_sendMsg sent
  obtain rfl := Option.some.inj registers
  exact low

section

variable [DecidableEq Object]

/-- The steps of a run that draw an id are the calls of its generator. -/
theorem drawn_history (world : World Object Generator Env) (acts : List (Act Object Input Env)) :
    (history World.step world acts).filterMap (fun entry =>
      (World.reading entry.2).map fun reading => (entry.1.idWorker, reading)) =
      history (fun generator reading => (IdGenerator.genId generator reading).2) world.idWorker
        (readings acts) := by
  induction acts generalizing world with
  | nil => rfl
  | cons act acts inductionHypothesis =>
    have rest := inductionHypothesis (world.step act)
    rw [World.step_idWorker] at rest
    unfold readings at *
    rw [history_cons, List.filterMap_cons, List.filterMap_cons, rest]
    dsimp only
    rcases World.reading act with _ | reading <;> rfl

theorem drawnIds_history (world : World Object Generator Env)
    (acts : List (Act Object Input Env)) :
    drawnIds (history World.step world acts) = IdGenerator.ids world.idWorker (readings acts) := by
  unfold IdGenerator.ids drawnIds World.draws
  rw [← drawn_history, List.map_filterMap]
  refine congrArg (fun drawn => List.filterMap drawn _) (funext fun entry => ?_)
  rw [Option.map_map]
  rfl

/-! ### The callback maps keep the registrations -/

/-- The first registration on an object under an id. -/
def firstUnder (log : List (Registration Object Env)) (object : Object) (id : UInt64) :
    Option (Registration Object Env) :=
  log.find? fun registered => registered.object = object ∧ registered.id = id

theorem firstUnder_concat (log : List (Registration Object Env))
    (registered : Registration Object Env) (object : Object) (id : UInt64) :
    firstUnder (log ++ [registered]) object id = (firstUnder log object id).or
      (if registered.object = object ∧ registered.id = id then some registered else none) := by
  unfold firstUnder
  rw [List.find?_append, List.find?_singleton]
  by_cases both : registered.object = object ∧ registered.id = id
  · rw [if_pos both, if_pos (decide_eq_true both)]
  · rw [if_neg both, if_neg fun yes => both (of_decide_eq_true yes)]

/-- A world after some history: the maps hold the first registration under each key, and the
callback objects are told apart by their addresses. -/
structure Tracks (past : History Object Generator Env Input)
    (world : World Object Generator Env) : Prop where
  stored : ∀ object id, (world.objects object).callbackMap[id]? =
    (firstUnder (registrations past) object id).map Registration.target
  fresh : ∀ registered ∈ registrations past, registered.target.address < world.allocated
  apart : (registrations past).Pairwise fun first second =>
    first.target.address < second.target.address

theorem Tracks.step {past : History Object Generator Env Input}
    {world : World Object Generator Env} (tracks : Tracks past world)
    (act : Act Object Input Env) : Tracks (past ++ [(world, act)]) (world.step act) := by
  rcases registers : world.registers act with _ | registered
  · have same : registrations (past ++ [(world, act)]) = registrations past := by
      rw [registrations_concat, registers]
      exact List.append_nil _
    refine ⟨fun object id => ?_, ?_, ?_⟩
    · rw [World.step_callbackMap, registers, same]
      exact tracks.stored object id
    · rw [World.step_allocated, registers, same]
      exact tracks.fresh
    · rw [same]
      exact tracks.apart
  · have grown : registrations (past ++ [(world, act)]) = registrations past ++ [registered] := by
      rw [registrations_concat, registers]
      rfl
    refine ⟨fun object id => ?_, ?_, ?_⟩
    · rw [World.step_callbackMap, registers, grown, firstUnder_concat, Option.map_or,
        ← tracks.stored object id]
      dsimp only
      by_cases here : object = registered.object
      · rw [if_pos here, getElem?_insertIfNew_or]
        by_cases key : registered.id = id
        · rw [if_pos key, if_pos ⟨here.symm, key⟩]
          rfl
        · rw [if_neg key, if_neg fun both => key both.2]
          rfl
      · rw [if_neg here, if_neg fun both => here both.1.symm, Option.map_none, Option.or_none]
    · rw [World.step_allocated, registers, grown]
      intro earlier member
      rcases List.mem_append.mp member with before | last
      · exact (tracks.fresh earlier before).trans (Nat.lt_succ_self _)
      · obtain rfl := List.mem_singleton.mp last
        rw [registers_address registers]
        exact Nat.lt_succ_self _
    · rw [grown, List.pairwise_append]
      refine ⟨tracks.apart, List.pairwise_singleton _ _, ?_⟩
      intro earlier member last isLast
      obtain rfl := List.mem_singleton.mp isLast
      rw [registers_address registers]
      exact tracks.fresh earlier member

theorem tracks_history (functionMap : Object → Std.HashMap CallType (Wrapper Env))
    (idWorker : Generator) (acts : List (Act Object Input Env)) :
    Tracks (history World.step (World.start functionMap idWorker) acts)
      (run World.step (World.start functionMap idWorker) acts) := by
  refine history_invariant World.step _ Tracks acts ⟨?_, ?_, ?_⟩ ?_
  · exact fun object id => Std.HashMap.getElem?_empty
  · exact fun registered member => nomatch member
  · exact List.Pairwise.nil
  · exact fun before act _ tracks => tracks.step act

/-! ### Where a reply goes -/

theorem firstUnder_eq_some {log : List (Registration Object Env)} {object : Object} {id : UInt64}
    {registered : Registration Object Env} (found : firstUnder log object id = some registered) :
    registered ∈ log ∧ registered.object = object ∧ registered.id = id := by
  unfold firstUnder at found
  have keyed := List.find?_some found
  exact ⟨List.mem_of_find?_eq_some found, of_decide_eq_true keyed⟩

theorem firstUnder_of_mem {log : List (Registration Object Env)}
    (distinct : (log.map Registration.id).Nodup) {registered : Registration Object Env}
    (member : registered ∈ log) :
    firstUnder log registered.object registered.id = some registered := by
  rcases found : firstUnder log registered.object registered.id with _ | other
  · exact absurd ⟨rfl, rfl⟩ (of_decide_eq_false
      (Bool.eq_false_iff.mpr (List.find?_eq_none.mp found registered member)))
  · obtain ⟨member', -, same⟩ := firstUnder_eq_some found
    rw [List.inj_on_of_nodup_map distinct member' member same]

/-- A map holds an entry under each id that was registered on its object, and under no other. -/
theorem Tracks.mem_callbackMap {past : History Object Generator Env Input}
    {world : World Object Generator Env} (tracks : Tracks past world) (object : Object)
    (id : UInt64) : id ∈ (world.objects object).callbackMap ↔
      ∃ registered ∈ registrations past, registered.object = object ∧ registered.id = id := by
  rw [Std.HashMap.mem_iff_isSome_getElem?, tracks.stored, Option.isSome_map, firstUnder,
    List.find?_isSome]
  exact exists_congr fun registered => and_congr_right' decide_eq_true_iff

section

variable {past : History Object Generator Env Input}
  {world : World Object Generator Env} (tracks : Tracks past world) {msg : RpcResultMsg}
  (success : msg.state ≠ 0)

include tracks success

/-- Where no id was drawn twice, a reply reaches the callback registered under its id. -/
theorem Tracks.deliver (fits : msg.size.toNat ≤ dataCapacity)
    (distinct : (drawnIds past).Nodup) {registered : Registration Object Env}
    (member : registered ∈ registrations past) (same : msg.rpcid.toUInt64 = registered.id) :
    world.ending (.issue registered.object (.dealResult (some msg))) =
      .ok (.callback registered.target (replyText msg)) := by
  rw [ending_dealResult world registered.object success, same, tracks.stored,
    firstUnder_of_mem (distinct.sublist (registrations_sublist past)) member, copyData_eq_ok fits]
  rfl

/-- A reply under an id that was not registered on its object reaches nothing. -/
theorem Tracks.ignore {object : Object} (absent : ∀ registered ∈ registrations past,
      registered.object = object → registered.id ≠ msg.rpcid.toUInt64) :
    world.ending (.issue object (.dealResult (some msg))) = .ok .idle := by
  rw [ending_dealResult world object success, tracks.stored]
  rcases found : firstUnder (registrations past) object msg.rpcid.toUInt64 with _ | registered
  · rfl
  · obtain ⟨member, here, same⟩ := firstUnder_eq_some found
    exact absurd same (absent registered member here)

/-- What a reply reaches was registered on its object under its id. -/
theorem Tracks.reached {object : Object} {target : SharedPtr (RpcCB Env)} {data : List UInt8}
    (reached : world.ending (.issue object (.dealResult (some msg))) =
      .ok (.callback target data)) :
    ∃ registered ∈ registrations past, registered.object = object ∧
      registered.id = msg.rpcid.toUInt64 ∧ registered.target = target := by
  rw [ending_dealResult world object success, tracks.stored] at reached
  rcases found : firstUnder (registrations past) object msg.rpcid.toUInt64 with _ | registered
  · rw [found] at reached
    cases reached
  · rw [found] at reached
    obtain ⟨member, here, same⟩ := firstUnder_eq_some found
    obtain ⟨text, -, ends⟩ := map_eq_ok_iff.mp reached
    exact ⟨registered, member, here, same, (Ending.callback.inj ends).1⟩

end

theorem Tracks.target_inj {past : History Object Generator Env Input}
    {world : World Object Generator Env} (tracks : Tracks past world)
    {first second : Registration Object Env} (member : first ∈ registrations past)
    (member' : second ∈ registrations past) (same : first.target = second.target) :
    first = second := by
  have addresses : ((registrations past).map fun registered => registered.target.address).Nodup :=
    List.pairwise_map.mpr (tracks.apart.imp Nat.ne_of_lt)
  exact List.inj_on_of_nodup_map addresses member member' (congrArg SharedPtr.address same)

/-- A reply that carries the low half of an id reaches the callback registered under the id
exactly when the id has no high half. -/
theorem Tracks.deliver_iff {past : History Object Generator Env Input}
    {world : World Object Generator Env} (tracks : Tracks past world)
    (distinct : (drawnIds past).Nodup) {msg : RpcResultMsg} (success : msg.state ≠ 0)
    (fits : msg.size.toNat ≤ dataCapacity) {registered : Registration Object Env}
    (member : registered ∈ registrations past) (low : msg.rpcid = registered.id.toUInt32) :
    world.ending (.issue registered.object (.dealResult (some msg))) =
      .ok (.callback registered.target (replyText msg)) ↔ registered.id.toNat < 2 ^ 32 := by
  have value : msg.rpcid.toUInt64.toNat = registered.id.toNat % 2 ^ 32 := by
    rw [UInt32.toNat_toUInt64, low, UInt64.toNat_toUInt32]
  constructor
  · intro reached
    obtain ⟨other, member', -, key, same⟩ := tracks.reached success reached
    rw [← tracks.target_inj member' member same, key, UInt32.toNat_toUInt64]
    exact UInt32.toNat_lt _
  · intro small
    refine tracks.deliver success fits distinct member (UInt64.toNat_inj.mp ?_)
    rw [value, Nat.mod_eq_of_lt small]

end

end RpcInstance
