/-
This file settles what the callback maps hold over a run of calls and replies
with the counter: every call that was made, answered or not.
-/

import RpcInstance.Replies

namespace RpcInstance

open Runs Code

section

variable {Object Generator Input Env : Type} [IdGenerator Generator Input]

/-- A step of a run in which nothing but `callCb` and `dealResult` is called. -/
def Act.CallsBack : Act Object Input Env → Prop
  | .issue _ (.callCb _ _ _ _ _) => True
  | .issue _ (.dealResult _) => True
  | .issue _ _ => False
  | .finish => True

/-- A `callCb` on an object. -/
def Act.isCallCb [DecidableEq Object] (object : Object) : Act Object Input Env → Bool
  | .issue other (.callCb _ _ _ _ _) => other = object
  | _ => false

/-- A successful reply to an object under an id. -/
def Act.RepliesTo (act : Act Object Input Env) (object : Object) (id : UInt64) : Prop :=
  ∃ msg, act = .issue object (.dealResult (some msg)) ∧ msg.state ≠ 0 ∧ msg.rpcid.toUInt64 = id

/-- A step that invokes a callback object. -/
def Invokes (entry : World Object Generator Env × Act Object Input Env)
    (target : SharedPtr (RpcCB Env)) : Prop :=
  ∃ data, entry.1.ending entry.2 = .ok (.callback target data)

variable [DecidableEq Object]

/-- A reply changes no object. -/
theorem step_dealResult_objects (world : World Object Generator Env) (object : Object)
    (retMsg : Option RpcResultMsg) :
    (world.step (.issue object (.dealResult retMsg))).objects = world.objects := by
  show Function.update world.objects object
    (exec (Operation.dealResult retMsg).run (world.client object)).2.self = world.objects
  rw [Operation.exec_run]
  exact Function.update_eq_self object world.objects

theorem registers_of_callsBack {world : World Object Generator Env} {act : Act Object Input Env}
    (callsBack : act.CallsBack) (object : Object) :
    act.isCallCb object = true ↔
      ∃ registered, world.registers act = some registered ∧ registered.object = object := by
  cases act with
  | finish => exact iff_of_false (fun same => nomatch same) fun ⟨_, same, _⟩ => nomatch same
  | issue other operation =>
    cases operation with
    | callCb reading type cb args timeout =>
      constructor
      · exact fun same => ⟨_, rfl, of_decide_eq_true same⟩
      · rintro ⟨registered, same, here⟩
        obtain rfl := Option.some.inj same
        exact decide_eq_true here
    | dealResult retMsg =>
      exact iff_of_false (fun same => nomatch same) fun ⟨_, same, _⟩ => nomatch same
    | _ => exact callsBack.elim

omit [DecidableEq Object] in
/-- Where no id is drawn twice, a registering step registers under an id of its own. -/
theorem registers_fresh {past : History Object Generator Env Input}
    {world : World Object Generator Env} {act : Act Object Input Env}
    {registered : Registration Object Env} (registers : world.registers act = some registered)
    (distinct : (drawnIds (past ++ [(world, act)])).Nodup) :
    ∀ earlier ∈ registrations past, earlier.id ≠ registered.id := by
  have ids := distinct.sublist (registrations_sublist (past ++ [(world, act)]))
  rw [registrations_concat, registers, List.map_append] at ids
  intro earlier member same
  exact (List.nodup_append.mp ids).2.2 _ (List.mem_map_of_mem member) registered.id
    (List.mem_singleton_self _) same

/-- The map of an object has one entry for each `callCb` on it. -/
theorem size_history (functionMap : Object → Std.HashMap CallType (Wrapper Env))
    (idWorker : Generator) (acts : List (Act Object Input Env))
    (callsBack : ∀ act ∈ acts, act.CallsBack)
    (distinct : (drawnIds (history World.step (World.start functionMap idWorker) acts)).Nodup)
    (object : Object) :
    ((run World.step (World.start functionMap idWorker) acts).objects object).callbackMap.size =
      acts.countP (Act.isCallCb object) := by
  induction acts using List.reverseRecOn with
  | nil => exact Std.HashMap.size_empty
  | append_singleton before act inductionHypothesis =>
    rw [history_concat] at distinct
    have earlier := inductionHypothesis
      (fun other member => callsBack other (List.mem_append_left _ member))
      (distinct.sublist (((List.sublist_append_left _ _).filterMap _)))
    have kind := @registers_of_callsBack Object Generator Input Env _ _
      (run World.step (World.start functionMap idWorker) before) act
      (callsBack act (List.mem_append_right _ (List.mem_singleton_self _))) object
    rw [run_concat, World.step_callbackMap, List.countP_append, List.countP_singleton, ← earlier]
    rcases registers : (run World.step (World.start functionMap idWorker) before).registers act
      with _ | registered
    · rw [registers] at kind
      rw [if_neg fun yes => nomatch (kind.mp yes).choose_spec.1]
      rfl
    · rw [registers] at kind
      dsimp only
      by_cases here : object = registered.object
      · have absent : registered.id ∉ ((run World.step (World.start functionMap idWorker)
            before).objects object).callbackMap := by
          rw [(tracks_history functionMap idWorker before).mem_callbackMap]
          rintro ⟨other, member, -, same⟩
          exact registers_fresh registers distinct other member same
        rw [if_pos here, Std.HashMap.size_insertIfNew, if_neg absent,
          if_pos (kind.mpr ⟨registered, rfl, here.symm⟩)]
      · rw [if_neg here, if_neg fun yes => ?_]
        · rfl
        · obtain ⟨other, same, there⟩ := kind.mp yes
          obtain rfl := Option.some.inj same
          exact here there.symm

section

variable {functionMap : Object → Std.HashMap CallType (Wrapper Env)} {idWorker : Generator}
  {acts : List (Act Object Input Env)}

/-- A step that invokes a callback replies to the call that registered it, which came before. -/
theorem registered_of_invokes {past future : History Object Generator Env Input}
    {world : World Object Generator Env} {act : Act Object Input Env}
    (cut : history World.step (World.start functionMap idWorker) acts =
      past ++ (world, act) :: future)
    {target : SharedPtr (RpcCB Env)} (invokes : Invokes (world, act) target) :
    ∃ registered ∈ registrations past, registered.target = target ∧
      act.RepliesTo registered.object registered.id := by
  obtain ⟨data, ends⟩ := invokes
  obtain ⟨object, msg, rfl, success⟩ := World.dealResult_of_callback ends
  obtain ⟨registered, member, rfl, same, rfl⟩ :=
    (tracks_past cut).reached success ends
  exact ⟨registered, member, rfl, msg, rfl, success, same.symm⟩

/-- A callback is invoked once by each successful reply to its call that lies in its buffer, and by
nothing else. -/
theorem invokes_iff (distinct : (IdGenerator.ids idWorker (readings acts)).Nodup)
    {past later : History Object Generator Env Input}
    {entry : World Object Generator Env × Act Object Input Env}
    (cut : history World.step (World.start functionMap idWorker) acts = past ++ entry :: later)
    {registered : Registration Object Env}
    (registers : entry.1.registers entry.2 = some registered) :
    (∀ reply ∈ later, reply.2.Fits → (Invokes reply registered.target ↔
      reply.2.RepliesTo registered.object registered.id)) ∧
    ∀ earlier ∈ past, ¬ Invokes earlier registered.target := by
  constructor
  · intro reply member fits
    obtain ⟨between, future, rfl⟩ := List.append_of_mem member
    have recut : history World.step (World.start functionMap idWorker) acts =
        (past ++ entry :: between) ++ reply :: future := by
      rw [cut, List.append_assoc]
      rfl
    have tracks := tracks_past recut
    have known : registered ∈ registrations (past ++ entry :: between) :=
      mem_registrations.mpr ⟨entry, List.mem_append_right _ List.mem_cons_self, registers⟩
    constructor
    · intro invokes
      obtain ⟨other, member', same, replies⟩ := registered_of_invokes recut invokes
      rwa [← tracks.target_inj member' known same]
    · rintro ⟨msg, issued, success, same⟩
      rw [issued] at fits
      refine ⟨replyText msg, ?_⟩
      rw [issued]
      exact tracks.deliver success (fits msg rfl) (drawnIds_past recut distinct) known same
  · intro earlier member invokes
    obtain ⟨before, between, rfl⟩ := List.append_of_mem member
    have recut : history World.step (World.start functionMap idWorker) acts =
        before ++ earlier :: (between ++ entry :: later) := by
      rw [cut, List.append_assoc]
      rfl
    obtain ⟨other, member', same, -⟩ := registered_of_invokes recut invokes
    obtain ⟨step, inside, registers'⟩ := mem_registrations.mp member'
    have below := (tracks_past cut).fresh other
      (mem_registrations.mpr ⟨step, List.mem_append_left _ inside, registers'⟩)
    rw [same, registers_address registers] at below
    exact Nat.lt_irrefl _ below

end

/-- Calls and replies with the counter, while its ids fit into 32 bits. A callback map holds
exactly the ids of all `callCb` calls so far, one entry for each; a reply changes no map; and a
callback is invoked by each successful reply to its call that lies in its buffer, and by nothing
else. The program is in these states as long as no step was undefined: every beginning of a run is
a run too, the one that ends with its first undefined step among them. -/
theorem callbacks_kept (functionMap : Object → Std.HashMap CallType (Wrapper Env))
    (acts : List (Act Object Unit Env)) (callsBack : ∀ act ∈ acts, act.CallsBack)
    (few : (readings acts).length < 2 ^ 32) :
    (∀ object id,
      id ∈ ((run World.step (World.start functionMap ({} : IdWorker)) acts).objects
        object).callbackMap ↔
      ∃ registered ∈ registrations
          (history World.step (World.start functionMap ({} : IdWorker)) acts),
        registered.object = object ∧ registered.id = id) ∧
    (∀ object,
      ((run World.step (World.start functionMap ({} : IdWorker)) acts).objects
        object).callbackMap.size = acts.countP (Act.isCallCb object)) ∧
    (∀ world object retMsg, (world, .issue object (.dealResult retMsg)) ∈
        history World.step (World.start functionMap ({} : IdWorker)) acts →
      (world.step (.issue object (.dealResult retMsg))).objects = world.objects) ∧
    (∀ past entry later,
      history World.step (World.start functionMap ({} : IdWorker)) acts = past ++ entry :: later →
      ∀ registered, entry.1.registers entry.2 = some registered →
        (∀ reply ∈ later, reply.2.Fits → (Invokes reply registered.target ↔
          reply.2.RepliesTo registered.object registered.id)) ∧
        ∀ earlier ∈ past, ¬ Invokes earlier registered.target) := by
  have distinct := IdWorker.ids_nodup (readings acts) (few.trans (by decide))
  refine ⟨?_, ?_, ?_, ?_⟩
  · exact (tracks_history functionMap ({} : IdWorker) acts).mem_callbackMap
  · refine size_history functionMap ({} : IdWorker) acts callsBack ?_
    rwa [drawnIds_history]
  · exact fun world object retMsg _ => step_dealResult_objects world object retMsg
  · exact fun past entry later cut registered registers => invokes_iff distinct cut registers

end

/-- One call that is answered. -/
theorem callbacks_kept_once :
    ((run World.step (World.start (fun _ => ∅) ({} : IdWorker))
      [oneCall (), oneReply 1]).objects ()).callbackMap.size = 1 :=
  (callbacks_kept (fun _ => ∅) [oneCall (), oneReply 1]
    (List.forall_mem_cons.mpr ⟨trivial, List.forall_mem_singleton.mpr trivial⟩) (by decide)).2.1 ()

/-- A call that was answered stays in the map, and a second reply invokes its callback again. -/
theorem reply_invokes_again :
    Invokes (run World.step (World.start (fun _ => ∅) ({} : IdWorker)) [oneCall ()], oneReply 1)
        ⟨0, quiet⟩ ∧
      1 ∈ ((run World.step (World.start (fun _ => ∅) ({} : IdWorker))
        [oneCall (), oneReply 1]).objects ()).callbackMap ∧
      Invokes (run World.step (World.start (fun _ => ∅) ({} : IdWorker)) [oneCall (), oneReply 1],
        oneReply 1) ⟨0, quiet⟩ := by
  have known : (⟨(), 1, ⟨0, quiet⟩⟩ : Registration Unit Unit) ∈ registrations (history World.step
      (World.start (fun _ => ∅) ({} : IdWorker)) [oneCall ()]) := List.mem_singleton_self _
  have known' : (⟨(), 1, ⟨0, quiet⟩⟩ : Registration Unit Unit) ∈ registrations (history World.step
      (World.start (fun _ => ∅) ({} : IdWorker)) [oneCall (), oneReply 1]) :=
    List.mem_singleton_self _
  have tracks := tracks_history (fun _ : Unit => (∅ : Std.HashMap CallType (Wrapper Unit)))
    ({} : IdWorker) [oneCall ()]
  have tracks' := tracks_history (fun _ : Unit => (∅ : Std.HashMap CallType (Wrapper Unit)))
    ({} : IdWorker) [oneCall (), oneReply 1]
  refine ⟨⟨_, tracks.deliver ?_ ?_ ?_ known rfl⟩, ?_, ⟨_, tracks'.deliver ?_ ?_ ?_ known' rfl⟩⟩
  · decide
  · decide
  · exact List.nodup_singleton _
  · exact (tracks'.mem_callbackMap () 1).mpr ⟨_, known', rfl, rfl⟩
  · decide
  · decide
  · exact List.nodup_singleton _

end RpcInstance
