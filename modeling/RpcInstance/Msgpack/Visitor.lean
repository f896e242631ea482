/-
This file models how the parser and its visitor build an object in memory.

The parser counts the entries that are missing on a stack of its own. The visitor keeps
pointers: it allocates the entries of a container where the container starts, and writes
each entry where it finds it. Neither of the two ever has an object in its hands.

They build what the parser of `Unpack.lean` returns. It follows from where the pointers
are: the pointer of an open container is right behind the entries that are done, the cell
that it points to was never written, and nothing behind it was. So every cell is written
once, inside of its block, and what is built stays as it is.

A request for memory that is refused ends the loop, with what is built so far in memory.
-/

import RpcInstance.Library.Blocks
import RpcInstance.Msgpack.Zone

namespace RpcInstance.Msgpack

open Blocks

/-! ### The visitor -/

/-- A `msgpack::object` in memory. The entries of a container are objects somewhere else. -/
inductive Cell where
  | leaf (object : Object)
  | container (kind : Container) (size : ℕ) (ptr : Pointer)
  /-- The type is written, but there was no memory for what belongs to it. -/
  | begun

/-- The zone with `m_obj`, and `m_stack`. -/
structure Visitor where
  memory : Memory Cell
  stack : List Pointer

/-- `m_obj`, which has a block of its own. -/
def root : Pointer := (Memory.empty.allocate 1 : Pointer × Memory Cell).1

/-- A failure leaves the visitor as it was then. -/
abbrev Visit : Type → Type := Except (Failure × Visitor)

namespace Visitor

/-- A visitor that has read nothing. -/
def init : Visitor where
  memory := (Memory.empty.allocate 1).2
  stack := [root]

/-- Writes to the object that `m_stack.back()` points to. -/
def store (visitor : Visitor) (cell : Cell) : Visit Visitor :=
  match visitor.stack with
  | [] => .error (.undefined .outOfBounds, visitor)
  | pointer :: _ =>
    match visitor.memory.write pointer cell with
    | none => .error (.undefined .outOfBounds, visitor)
    | some memory => .ok { visitor with memory }

/-- `++m_stack.back()`, at the end of an entry. -/
def endEntry (visitor : Visitor) : Visit Visitor :=
  match visitor.stack with
  | [] => .error (.undefined .outOfBounds, visitor)
  | pointer :: below => .ok { visitor with stack := pointer.next :: below }

/-- `m_stack.pop_back()`, at the end of a container. -/
def endContainer (visitor : Visitor) : Visit Visitor :=
  match visitor.stack with
  | [] => .error (.undefined .outOfBounds, visitor)
  | _ :: below => .ok { visitor with stack := below }

/-- The zone has nothing for the object that is begun. -/
def refuse (visitor : Visitor) : Visit Visitor := do
  let visitor ← visitor.store .begun
  .error (.thrown badAlloc, visitor)

/-- The `visit_` functions. -/
def visit (visitor : Visitor) (supply : Supply) (object : Object) : Visit Visitor :=
  if supply.suffices (.value object) then visitor.store (.leaf object) else visitor.refuse

/-- `m_stack.push_back(ptr)`, and the element that the parser pushes on its own stack. -/
def push (visitor : Visitor) (supply : Supply) (ptr : Pointer) : Visit Visitor :=
  if supply = .all then .ok { visitor with stack := ptr :: visitor.stack }
  else .error (.thrown badAlloc, visitor)

/-- `start_array` and `start_map`. An empty container has a null pointer. -/
def start (visitor : Visitor) (supply : Supply) (kind : Container) (size : ℕ) : Visit Visitor :=
  if depthLimit < visitor.stack.length then .error (.thrown depthSizeOverflow, visitor)
  else if size = 0 then do
    let visitor ← visitor.store (.container kind size .null)
    visitor.push supply .null
  else if supply = .nothing then visitor.refuse
  else do
    let (ptr, memory) := visitor.memory.allocate (kind.objects size)
    let visitor ← { visitor with memory }.store (.container kind size ptr)
    visitor.push supply ptr

end Visitor

/-! ### The stack of the parser -/

/-- `msgpack_container_type`. -/
inductive ContainerType where
  | arrayItem
  | mapKey
  | mapValue
  deriving DecidableEq, Repr

/-- A `stack_elem`: what comes next in a container, and how many entries are missing. -/
structure Counter where
  type : ContainerType
  rest : ℕ
  deriving DecidableEq, Repr

/-- What comes first in a container. -/
def Container.first : Container → ContainerType
  | .array => .arrayItem
  | .map => .mapKey

/-- Ends the entry that was read, and every container that it completes. The whole object is
complete when nothing is left on the stack. -/
def consumeAt : List Counter → Visitor → Visit (List Counter × Visitor)
  | [], visitor => .ok ([], visitor)
  | ⟨.arrayItem, rest⟩ :: below, visitor => do
    let visitor ← visitor.endEntry
    if rest - 1 = 0 then
      let visitor ← visitor.endContainer
      consumeAt below visitor
    else return (⟨.arrayItem, rest - 1⟩ :: below, visitor)
  | ⟨.mapKey, rest⟩ :: below, visitor => do
    let visitor ← visitor.endEntry
    return (⟨.mapValue, rest⟩ :: below, visitor)
  | ⟨.mapValue, rest⟩ :: below, visitor => do
    let visitor ← visitor.endEntry
    if rest - 1 = 0 then
      let visitor ← visitor.endContainer
      consumeAt below visitor
    else return (⟨.mapKey, rest - 1⟩ :: below, visitor)

/-- Visits a token. -/
def visitAt (supply : Supply) (stack : List Counter) (visitor : Visitor) :
    Token → Visit (List Counter × Visitor)
  | .value object => do
    let visitor ← visitor.visit supply object
    consumeAt stack visitor
  | .start kind size => do
    let visitor ← visitor.start supply kind size
    if size = 0 then
      let visitor ← visitor.endContainer
      consumeAt stack visitor
    else return (⟨kind.first, size⟩ :: stack, visitor)

/-- The loop of the parser, for at most `turns` turns, with the memory that it leaves. -/
def executeAt (supplies : List UInt8 → Supply) : ℕ → List UInt8 → List Counter → Visitor →
    Except Failure (List UInt8) × Memory Cell
  | 0, _, _, visitor => (.error (.thrown insufficientBytes), visitor.memory)
  | turns + 1, bytes, stack, visitor =>
    match token bytes with
    | .error thrown => (.error (.thrown thrown), visitor.memory)
    | .ok (next, rest) =>
      match visitAt (supplies rest) stack visitor next with
      | .error (failure, visitor) => (.error failure, visitor.memory)
      | .ok ([], visitor) => (.ok rest, visitor.memory)
      | .ok (stack, visitor) => executeAt supplies turns rest stack visitor

/-- What the parser returns, or throws, and the memory that it leaves. -/
def unpackAt (supplies : List UInt8 → Supply) (data : List UInt8) :
    Except Failure (List UInt8) × Memory Cell :=
  executeAt supplies data.length data [] .init

/-! ### Objects in memory -/

/-- The objects that lie in a row from a pointer on. -/
inductive Lies (memory : Memory Cell) : Pointer → List Object → Prop
  | nil (pointer : Pointer) : Lies memory pointer []
  | leaf {pointer : Pointer} {object : Object} {objects : List Object}
      (stored : memory.cells pointer = some (.leaf object))
      (others : Lies memory pointer.next objects) : Lies memory pointer (object :: objects)
  | array {pointer ptr : Pointer} {items objects : List Object}
      (stored : memory.cells pointer = some (.container .array items.length ptr))
      (inside : Lies memory ptr items) (others : Lies memory pointer.next objects) :
      Lies memory pointer (.array items :: objects)
  | map {pointer ptr : Pointer} {entries : List (Object × Object)} {objects : List Object}
      (stored : memory.cells pointer = some (.container .map entries.length ptr))
      (inside : Lies memory ptr (flatten entries)) (others : Lies memory pointer.next objects) :
      Lies memory pointer (.map entries :: objects)

namespace Lies

variable {memory : Memory Cell} {pointer : Pointer}

/-- What is built stays as it is. -/
theorem mono {after : Memory Cell} (kept : memory.Extends after) {objects : List Object}
    (lies : Lies memory pointer objects) : Lies after pointer objects := by
  induction lies with
  | nil pointer => exact .nil pointer
  | leaf stored _ others => exact .leaf (kept.cells _ _ stored) others
  | array stored _ _ inside others => exact .array (kept.cells _ _ stored) inside others
  | map stored _ _ inside others => exact .map (kept.cells _ _ stored) inside others

theorem append {first second : List Object} (lies : Lies memory pointer first)
    (lies' : Lies memory (pointer.offset first.length) second) :
    Lies memory pointer (first ++ second) := by
  induction lies with
  | nil pointer => exact lies'
  | leaf stored _ others =>
    rw [List.length_cons, ← Pointer.offset_next] at lies'
    exact .leaf stored (others lies')
  | array stored inside _ _ others =>
    rw [List.length_cons, ← Pointer.offset_next] at lies'
    exact .array stored inside (others lies')
  | map stored inside _ _ others =>
    rw [List.length_cons, ← Pointer.offset_next] at lies'
    exact .map stored inside (others lies')

end Lies

theorem flatten_inj {first second : List (Object × Object)} :
    flatten first = flatten second ↔ first = second := by
  refine ⟨fun same => ?_, congrArg flatten⟩
  induction first generalizing second with
  | nil =>
    cases second with
    | nil => rfl
    | cons entry second => cases same
  | cons entry first inductionHypothesis =>
    cases second with
    | nil => cases same
    | cons entry' second =>
      simp only [flatten_cons, List.cons.injEq] at same
      obtain ⟨key, value, rest⟩ := same
      exact congrArg₂ List.cons (Prod.ext key value) (inductionHypothesis rest)

theorem flatten_length (entries : List (Object × Object)) :
    (flatten entries).length = 2 * entries.length := by
  induction entries with
  | nil => rfl
  | cons entry entries inductionHypothesis =>
    rw [flatten_cons, List.length_cons, List.length_cons, inductionHypothesis, List.length_cons]
    omega

/-- What lies in memory is determined by the pointer and the number of objects. -/
theorem Lies.unique {memory : Memory Cell} {pointer : Pointer} {first second : List Object}
    (lies : Lies memory pointer first) (lies' : Lies memory pointer second)
    (length : first.length = second.length) : first = second := by
  induction lies generalizing second with
  | nil pointer => exact (List.eq_nil_of_length_eq_zero length.symm).symm
  | leaf stored _ others =>
    cases lies' with
    | nil => cases length
    | leaf stored' others' =>
      obtain rfl := Cell.leaf.inj (Option.some.inj (stored.symm.trans stored'))
      rw [others others' (Nat.succ.inj length)]
    | array stored' | map stored' => cases stored.symm.trans stored'
  | array stored _ _ inside others =>
    cases lies' with
    | nil => cases length
    | leaf stored' => cases stored.symm.trans stored'
    | array stored' inside' others' =>
      obtain ⟨-, size, rfl⟩ := Cell.container.inj (Option.some.inj (stored.symm.trans stored'))
      rw [inside inside' size, others others' (Nat.succ.inj length)]
    | map stored' => cases stored.symm.trans stored'
  | map stored _ _ inside others =>
    cases lies' with
    | nil => cases length
    | leaf stored' | array stored' => cases stored.symm.trans stored'
    | map stored' inside' others' =>
      obtain ⟨-, size, rfl⟩ := Cell.container.inj (Option.some.inj (stored.symm.trans stored'))
      have same := inside inside' (by rw [flatten_length, flatten_length, size])
      rw [flatten_inj.mp same, others others' (Nat.succ.inj length)]

/-! ### Where the pointers are -/

namespace StackElem

/-- An array or a map. -/
def kind : StackElem → Container
  | .arrayItem _ _ => .array
  | .mapKey _ _ => .map
  | .mapValue _ _ _ => .map

/-- The number of entries that the container has when it is complete. -/
def size : StackElem → ℕ
  | .arrayItem rest done => done.length + rest
  | .mapKey rest done => done.length + rest
  | .mapValue rest done _ => done.length + rest

/-- The objects that are read. -/
def objects : StackElem → List Object
  | .arrayItem _ done => done
  | .mapKey _ done => flatten done
  | .mapValue _ done key => flatten done ++ [key]

/-- What the parser keeps of it. -/
def counter : StackElem → Counter
  | .arrayItem rest _ => ⟨.arrayItem, rest⟩
  | .mapKey rest _ => ⟨.mapKey, rest⟩
  | .mapValue rest _ _ => ⟨.mapValue, rest⟩

end StackElem

/-- The stack of the visitor belongs to these open containers: each pointer is behind the objects
that are read of its container, and the pointer below it is where the container lies. -/
inductive Follows (memory : Memory Cell) : List StackElem → List Pointer → Prop
  | nil (valid : memory.Valid root) : Follows memory [] [root]
  | cons {elem : StackElem} {below : List StackElem} {parent ptr : Pointer}
      {pointers : List Pointer} (outside : Follows memory below (parent :: pointers))
      (stored : memory.cells parent = some (.container elem.kind elem.size ptr))
      (room : ∀ distance < elem.kind.objects elem.size, memory.Valid (ptr.offset distance))
      (inside : Lies memory ptr elem.objects)
      (missing : elem.objects.length < elem.kind.objects elem.size) :
      Follows memory (elem :: below) (ptr.offset elem.objects.length :: parent :: pointers)

namespace Follows

variable {memory : Memory Cell} {stack : List StackElem} {pointers : List Pointer}

theorem mono {after : Memory Cell} (kept : memory.Extends after)
    (follows : Follows memory stack pointers) : Follows after stack pointers := by
  induction follows with
  | nil valid => exact .nil (kept.valid valid)
  | cons _ stored room inside missing outside =>
    exact .cons outside (kept.cells _ _ stored)
      (fun distance small => kept.valid (room distance small)) (inside.mono kept) missing

theorem valid (follows : Follows memory stack pointers) :
    ∀ pointer ∈ pointers, memory.Valid pointer := by
  induction follows with
  | nil valid => exact List.forall_mem_singleton.mpr valid
  | cons _ _ room _ missing others =>
    exact List.forall_mem_cons.mpr ⟨room _ missing, others⟩

theorem length (follows : Follows memory stack pointers) : pointers.length = stack.length + 1 := by
  induction follows with
  | nil => rfl
  | cons _ _ _ _ _ others => exact congrArg Nat.succ others

end Follows

/-- Nothing is written behind the pointers, which are in blocks of their own. -/
structure Ahead (memory : Memory Cell) (pointers : List Pointer) : Prop where
  unwritten : ∀ pointer ∈ pointers, ∀ distance, memory.cells (pointer.next.offset distance) = none
  apart : pointers.Pairwise fun one other => one.block ≠ other.block

namespace Ahead

variable {memory : Memory Cell} {top : Pointer} {pointers : List Pointer}

theorem tail (ahead : Ahead memory (top :: pointers)) : Ahead memory pointers where
  unwritten := (List.forall_mem_cons.mp ahead.unwritten).2
  apart := (List.pairwise_cons.mp ahead.apart).2

theorem next (ahead : Ahead memory (top :: pointers)) : Ahead memory (top.next :: pointers) where
  unwritten := by
    obtain ⟨first, others⟩ := List.forall_mem_cons.mp ahead.unwritten
    refine List.forall_mem_cons.mpr ⟨fun distance => ?_, others⟩
    rw [Pointer.offset_next]
    exact first (distance + 1)
  apart := List.pairwise_cons.mpr (List.pairwise_cons.mp ahead.apart)

/-- Writing where the first pointer points to. -/
theorem write (ahead : Ahead memory (top :: pointers)) {after : Memory Cell} {cell : Cell}
    (written : after.cells = Function.update memory.cells top (some cell)) :
    Ahead after (top :: pointers) where
  unwritten pointer member distance := by
    have different : pointer.next.offset distance ≠ top := by
      rcases List.mem_cons.mp member with rfl | below
      · exact fun same => Nat.ne_of_gt (Nat.lt_of_lt_of_le (Nat.lt_succ_self pointer.place)
          (Nat.le_add_right _ distance)) (congrArg Pointer.place same)
      · exact fun same => (List.pairwise_cons.mp ahead.apart).1 pointer below
          (congrArg Pointer.block same).symm
    rw [written, Function.update_of_ne different]
    exact ahead.unwritten pointer member distance
  apart := ahead.apart

end Ahead

/-- What the visitor has built while these containers are open. -/
structure Ready (stack : List StackElem) (visitor : Visitor) : Prop where
  follows : Follows visitor.memory stack visitor.stack
  ahead : Ahead visitor.memory visitor.stack
  unwritten : ∀ pointer ∈ visitor.stack.head?, visitor.memory.cells pointer = none

/-- The outcome of a turn is built in memory, in blocks of so many cells in all. -/
def Progress.Built (cells : ℕ) : Progress → Visit (List Counter × Visitor) → Prop
  | .success object, built => ∃ visitor, built = .ok ([], visitor) ∧
      visitor.memory.sizes.sum = cells ∧ Lies visitor.memory root [object]
  | .next stack, built => stack ≠ [] ∧
      ∃ visitor, built = .ok (stack.map StackElem.counter, visitor) ∧
        visitor.memory.sizes.sum = cells ∧ Ready stack visitor

/-- The turn throws, and leaves blocks of so many cells in all. -/
def Throws (cells : ℕ) (thrown : Thrown) (built : Visit (List Counter × Visitor)) : Prop :=
  ∃ visitor, built = .error (.thrown thrown, visitor) ∧ visitor.memory.sizes.sum = cells

/-! ### One turn -/

variable {memory : Memory Cell} {stack : List StackElem} {top : Pointer} {pointers : List Pointer}

/-- Ending the entry that lies where the first pointer points to. -/
theorem consumeAt_built {object : Object} (follows : Follows memory stack (top :: pointers))
    (ahead : Ahead memory (top :: pointers)) (written : Lies memory top [object]) :
    (consume object stack).Built memory.sizes.sum
      (consumeAt (stack.map StackElem.counter) ⟨memory, top :: pointers⟩) := by
  induction stack generalizing object top pointers with
  | nil =>
    cases follows
    exact ⟨_, rfl, rfl, written⟩
  | cons elem below inductionHypothesis =>
    obtain - | ⟨outside, stored, room, inside, missing⟩ := follows
    next parent ptr pointers =>
    have grown := inside.append written
    have unwritten : memory.cells (ptr.offset elem.objects.length).next = none :=
      ahead.unwritten _ List.mem_cons_self 0
    have goesOn : ∀ after : StackElem, after.kind = elem.kind → after.size = elem.size →
        after.objects = elem.objects ++ [object] →
        after.objects.length < after.kind.objects after.size → Ready (after :: below)
          ⟨memory, (ptr.offset elem.objects.length).next :: parent :: pointers⟩ := by
      intro after kind size objects few
      have place : (ptr.offset elem.objects.length).next = ptr.offset after.objects.length := by
        rw [objects, List.length_append]
        rfl
      refine ⟨?_, ahead.next, fun pointer first => Option.some.inj first ▸ unwritten⟩
      show Follows memory _ ((ptr.offset elem.objects.length).next :: parent :: pointers)
      rw [place]
      rw [← kind, ← size] at stored room
      exact .cons outside stored room (objects ▸ grown) few
    cases elem with
    | arrayItem rest done =>
      have positive : done.length < done.length + rest := missing
      have more : (done ++ [object]).length = done.length + 1 := List.length_append
      show (consume object (.arrayItem rest done :: below)).Built memory.sizes.sum
        (if rest - 1 = 0 then consumeAt (below.map StackElem.counter) ⟨memory, parent :: pointers⟩
        else .ok (⟨.arrayItem, rest - 1⟩ :: below.map StackElem.counter,
          ⟨memory, (ptr.offset done.length).next :: parent :: pointers⟩))
      rw [consume]
      split_ifs with last
      · refine inductionHypothesis outside ahead.tail (.array ?_ grown (.nil _))
        rw [more, show done.length + 1 = done.length + rest by omega]
        exact stored
      · have size : (done ++ [object]).length + (rest - 1) = done.length + rest := by omega
        have few : (done ++ [object]).length < (done ++ [object]).length + (rest - 1) := by omega
        exact ⟨List.cons_ne_nil _ _, _, rfl, rfl,
          goesOn (.arrayItem (rest - 1) (done ++ [object])) rfl size rfl few⟩
    | mapKey rest done =>
      have positive : (flatten done).length < 2 * (done.length + rest) := missing
      have few : (flatten done ++ [object]).length < 2 * (done.length + rest) := by
        rw [List.length_append, List.length_singleton]
        rw [flatten_length] at positive ⊢
        omega
      exact ⟨List.cons_ne_nil _ _, _, rfl, rfl,
        goesOn (.mapValue rest done object) rfl rfl rfl few⟩
    | mapValue rest done key =>
      have positive : (flatten done ++ [key]).length < 2 * (done.length + rest) := missing
      rw [List.length_append, List.length_singleton, flatten_length] at positive
      have more : (done ++ [(key, object)]).length = done.length + 1 := List.length_append
      have flat : flatten (done ++ [(key, object)]) = flatten done ++ [key] ++ [object] :=
        flatten_concat done (key, object)
      show (consume object (.mapValue rest done key :: below)).Built memory.sizes.sum
        (if rest - 1 = 0 then consumeAt (below.map StackElem.counter) ⟨memory, parent :: pointers⟩
        else .ok (⟨.mapKey, rest - 1⟩ :: below.map StackElem.counter,
          ⟨memory, (ptr.offset (flatten done ++ [key]).length).next :: parent :: pointers⟩))
      rw [consume]
      split_ifs with last
      · refine inductionHypothesis outside ahead.tail (.map ?_ (flat ▸ grown) (.nil _))
        rw [more, show done.length + 1 = done.length + rest by omega]
        exact stored
      · have size : (done ++ [(key, object)]).length + (rest - 1) = done.length + rest := by omega
        have few : (flatten (done ++ [(key, object)])).length <
            2 * ((done ++ [(key, object)]).length + (rest - 1)) := by
          rw [flatten_length]
          omega
        exact ⟨List.cons_ne_nil _ _, _, rfl, rfl,
          goesOn (.mapKey (rest - 1) (done ++ [(key, object)])) rfl size flat few⟩

/-- Writing where the first pointer points to, which no pointer looks at. -/
theorem Ready.store (ready : Ready stack ⟨memory, top :: pointers⟩) (cell : Cell) :
    ∃ after, Visitor.store ⟨memory, top :: pointers⟩ cell = .ok ⟨after, top :: pointers⟩ ∧
      Follows after stack (top :: pointers) ∧ Ahead after (top :: pointers) ∧
      after.cells = Function.update memory.cells top (some cell) ∧ after.sizes = memory.sizes := by
  have valid := ready.follows.valid top List.mem_cons_self
  obtain ⟨after, written, sizes, cells, kept⟩ :=
    Memory.exists_write valid (ready.unwritten top rfl) cell
  refine ⟨after, ?_, ready.follows.mono kept, ready.ahead.write cells, cells, sizes⟩
  rw [Visitor.store]
  dsimp only
  rw [written]

/-- A new block is in the way of nothing. -/
theorem Ready.allocate (ready : Ready stack ⟨memory, top :: pointers⟩) (size : ℕ) :
    Ready stack ⟨(memory.allocate size).2, top :: pointers⟩ where
  follows := ready.follows.mono (memory.extends_allocate size)
  ahead := ⟨ready.ahead.unwritten, ready.ahead.apart⟩
  unwritten := ready.unwritten

theorem Container.objects_pos (kind : Container) {size : ℕ} (nonempty : size ≠ 0) :
    0 < kind.objects size := by
  cases kind with
  | array => exact Nat.pos_of_ne_zero nonempty
  | map => exact Nat.mul_pos Nat.two_pos (Nat.pos_of_ne_zero nonempty)

/-- The zone has nothing. -/
theorem Ready.refuse (ready : Ready stack ⟨memory, top :: pointers⟩) :
    ∃ after, Visitor.refuse ⟨memory, top :: pointers⟩ =
        .error (.thrown badAlloc, ⟨after, top :: pointers⟩) ∧ after.sizes = memory.sizes := by
  obtain ⟨after, stored, -, -, -, sizes⟩ := ready.store .begun
  refine ⟨after, ?_, sizes⟩
  rw [Visitor.refuse, stored]
  rfl

/-- Starting a container with entries, and pushing its pointer if there is room for it. -/
theorem Ready.start (ready : Ready stack ⟨memory, top :: pointers⟩) (kind : Container) {size : ℕ}
    (shallow : ¬ depthLimit < (top :: pointers).length) (nonempty : size ≠ 0) :
    ∃ ptr after, (∀ supply ≠ .nothing, Visitor.start ⟨memory, top :: pointers⟩ supply kind size =
        Visitor.push ⟨after, top :: pointers⟩ supply ptr) ∧
      after.sizes.sum = memory.sizes.sum + kind.objects size ∧
      Ready (kind.opened size :: stack) ⟨after, ptr :: top :: pointers⟩ := by
  obtain ⟨after, stored, follows, ahead, cells, sizes⟩ :=
    (ready.allocate (kind.objects size)).store
      (.container kind size (memory.allocate (kind.objects size)).1)
  refine ⟨(memory.allocate (kind.objects size)).1, after, fun supply some => ?_, ?_, ?_⟩
  · rw [Visitor.start, if_neg shallow, if_neg nonempty, if_neg some]
    show (Visitor.store ⟨(memory.allocate (kind.objects size)).2, top :: pointers⟩
      (.container kind size (memory.allocate (kind.objects size)).1) >>= _) = _
    rw [stored]
    rfl
  · rw [sizes]
    exact List.sum_append.trans (congrArg _ List.sum_singleton)
  · have different : ∀ pointer ∈ top :: pointers, memory.sizes.length ≠ pointer.block :=
      fun pointer member => (Nat.ne_of_lt (ready.follows.valid pointer member).block_lt).symm
    have unwritten : ∀ place, after.cells ⟨memory.sizes.length, place⟩ = none := by
      intro place
      rw [cells, Function.update_of_ne fun same =>
        different top List.mem_cons_self (congrArg Pointer.block same)]
      exact memory.cells_next_block place
    have opened : (kind.opened size).kind = kind ∧ (kind.opened size).size = size ∧
        (kind.opened size).objects = [] := by
      cases kind <;> exact ⟨rfl, Nat.zero_add size, rfl⟩
    obtain ⟨sameKind, sameSize, noObjects⟩ := opened
    have room : ∀ distance < kind.objects size,
        after.Valid ((memory.allocate (kind.objects size)).1.offset distance) := by
      intro distance small
      show 0 + distance < after.sizes.getD memory.sizes.length 0
      rw [sizes, memory.getD_allocate, Nat.zero_add]
      exact small
    refine ⟨?_, ⟨?_, List.pairwise_cons.mpr ⟨different, ahead.apart⟩⟩, ?_⟩
    · have whole := @Follows.cons after (kind.opened size) stack top
        (memory.allocate (kind.objects size)).1 pointers follows
      rw [sameKind, sameSize, noObjects, cells, Function.update_self] at whole
      exact whole rfl room (.nil _) (kind.objects_pos nonempty)
    · exact List.forall_mem_cons.mpr ⟨fun distance => unwritten _, ahead.unwritten⟩
    · exact fun pointer first => Option.some.inj first ▸ unwritten 0

/-- Writing an object that has no others, and ending it. -/
theorem Ready.visitLeaf (ready : Ready stack ⟨memory, top :: pointers⟩) {supply : Supply}
    {object : Object} (enough : supply.suffices (.value object)) :
    (consume object stack).Built memory.sizes.sum (visitAt supply (stack.map StackElem.counter)
      ⟨memory, top :: pointers⟩ (.value object)) := by
  obtain ⟨after, stored, follows, ahead, cells, sizes⟩ := ready.store (.leaf object)
  have written : after.cells top = some (.leaf object) := by
    rw [cells, Function.update_self]
  show (consume object stack).Built _
    (Visitor.visit ⟨memory, top :: pointers⟩ supply object >>= _)
  rw [Visitor.visit, if_pos enough, stored, ← sizes]
  exact consumeAt_built follows ahead (.leaf written (.nil _))

/-- Starting a container without entries, and ending it if its pointer is pushed. -/
theorem Ready.visitEmpty (ready : Ready stack ⟨memory, top :: pointers⟩) (kind : Container)
    (shallow : ¬ depthLimit < (top :: pointers).length) :
    ∃ after, after.sizes = memory.sizes ∧
      (∀ supply, Visitor.start ⟨memory, top :: pointers⟩ supply kind 0 =
        Visitor.push ⟨after, top :: pointers⟩ supply .null) ∧
      (consume kind.empty stack).Built after.sizes.sum
        (consumeAt (stack.map StackElem.counter) ⟨after, top :: pointers⟩) := by
  obtain ⟨after, stored, follows, ahead, cells, sizes⟩ := ready.store (.container kind 0 .null)
  have written : after.cells top = some (.container kind 0 .null) := by
    rw [cells, Function.update_self]
  refine ⟨after, sizes, fun supply => ?_, consumeAt_built follows ahead ?_⟩
  · rw [Visitor.start, if_neg shallow, if_pos rfl, stored]
    rfl
  · cases kind with
    | array => exact .array written (.nil _) (.nil _)
    | map => exact .map written (.nil _) (.nil _)

/-- A turn on an object. -/
theorem Ready.visitValue (ready : Ready stack ⟨memory, top :: pointers⟩) (supply : Supply)
    (object : Object) :
    if supply.suffices (.value object) then
      (consume object stack).Built memory.sizes.sum (visitAt supply (stack.map StackElem.counter)
        ⟨memory, top :: pointers⟩ (.value object))
    else Throws memory.sizes.sum badAlloc (visitAt supply (stack.map StackElem.counter)
      ⟨memory, top :: pointers⟩ (.value object)) := by
  split_ifs with enough
  · exact ready.visitLeaf enough
  · obtain ⟨after, refused, sizes⟩ := ready.refuse
    refine ⟨⟨after, top :: pointers⟩, ?_, congrArg List.sum sizes⟩
    show Visitor.visit ⟨memory, top :: pointers⟩ supply object >>= _ = _
    rw [Visitor.visit, if_neg enough, refused]
    rfl

/-- A turn on the start of a container without entries. -/
theorem Ready.visitStartEmpty (ready : Ready stack ⟨memory, top :: pointers⟩) (supply : Supply)
    (kind : Container) (shallow : ¬ depthLimit < (top :: pointers).length) :
    if supply.suffices (.start kind 0) then
      (consume kind.empty stack).Built memory.sizes.sum (visitAt supply
        (stack.map StackElem.counter) ⟨memory, top :: pointers⟩ (.start kind 0))
    else Throws memory.sizes.sum badAlloc (visitAt supply (stack.map StackElem.counter)
      ⟨memory, top :: pointers⟩ (.start kind 0)) := by
  obtain ⟨after, sizes, started, built⟩ := ready.visitEmpty kind shallow
  have visited : visitAt supply (stack.map StackElem.counter) ⟨memory, top :: pointers⟩
      (.start kind 0) = Visitor.push ⟨after, top :: pointers⟩ supply .null >>= fun visitor =>
        visitor.endContainer >>= consumeAt (stack.map StackElem.counter) := by
    rw [← started supply]
    rfl
  rw [visited, ← sizes]
  cases supply with
  | all => exact built
  | nothing | noStack => exact ⟨_, rfl, rfl⟩

/-- A turn on the start of a container with entries. -/
theorem Ready.visitStart (ready : Ready stack ⟨memory, top :: pointers⟩) (supply : Supply)
    (kind : Container) {size : ℕ} (shallow : ¬ depthLimit < (top :: pointers).length)
    (nonempty : size ≠ 0) (zone : Zone) (charged : memory.sizes.sum = zone.objects + 1) :
    let cells := (zone.take supply (.start kind size)).objects + 1
    if supply.suffices (.start kind size) then
      (Progress.next (kind.opened size :: stack)).Built cells (visitAt supply
        (stack.map StackElem.counter) ⟨memory, top :: pointers⟩ (.start kind size))
    else Throws cells badAlloc (visitAt supply (stack.map StackElem.counter)
      ⟨memory, top :: pointers⟩ (.start kind size)) := by
  have visited : visitAt supply (stack.map StackElem.counter) ⟨memory, top :: pointers⟩
      (.start kind size) = Visitor.start ⟨memory, top :: pointers⟩ supply kind size >>=
        fun visitor => .ok (⟨kind.first, size⟩ :: stack.map StackElem.counter, visitor) := by
    show (Visitor.start _ supply kind size >>= fun visitor => if size = 0 then _ else _) = _
    simp only [if_neg nonempty]
    rfl
  rw [visited]
  cases supply with
  | nothing =>
    obtain ⟨after, refused, sizes⟩ := ready.refuse
    refine ⟨⟨after, top :: pointers⟩, ?_, (congrArg List.sum sizes).trans charged⟩
    rw [Visitor.start, if_neg shallow, if_neg nonempty, if_pos rfl, refused]
    rfl
  | noStack =>
    obtain ⟨ptr, after, started, cells, -⟩ := ready.start kind shallow nonempty
    refine ⟨⟨after, top :: pointers⟩, ?_, ?_⟩
    · rw [started .noStack nofun]
      rfl
    · rw [cells, charged]
      exact Nat.add_right_comm _ 1 _
  | all =>
    obtain ⟨ptr, after, started, cells, opened⟩ := ready.start kind shallow nonempty
    refine ⟨List.cons_ne_nil _ _, ⟨after, ptr :: top :: pointers⟩, ?_, ?_, opened⟩
    · rw [started .all nofun]
      cases kind <;> rfl
    · rw [cells, charged]
      exact Nat.add_right_comm _ 1 _

/-- One turn does in memory what it does to objects, and allocates what the zone is charged. -/
theorem Ready.visit (ready : Ready stack ⟨memory, top :: pointers⟩) (supply : Supply)
    (next : Token) (zone : Zone) (charged : memory.sizes.sum = zone.objects + 1) :
    let built := visitAt supply (stack.map StackElem.counter) ⟨memory, top :: pointers⟩ next
    match advance next stack with
    | .error thrown => Throws (zone.objects + 1) thrown built
    | .ok progress =>
      if supply.suffices next then progress.Built ((zone.take supply next).objects + 1) built
      else Throws ((zone.take supply next).objects + 1) badAlloc built := by
  have same : ∀ next, (zone.visit next).objects = zone.objects →
      (zone.take supply next).objects + 1 = memory.sizes.sum := by
    intro next nothing
    rw [charged, Zone.take]
    split_ifs
    · rfl
    · rw [nothing]
  cases next with
  | value object =>
    dsimp only [advance]
    rw [same (.value object) rfl]
    exact ready.visitValue supply object
  | start kind size =>
    have length : (top :: pointers).length = stack.length + 1 := ready.follows.length
    rw [advance, startAggregate]
    by_cases deep : depthLimit < stack.length + 1
    · rw [if_pos deep]
      refine ⟨⟨memory, top :: pointers⟩, ?_, charged⟩
      show (Visitor.start ⟨memory, top :: pointers⟩ supply kind size >>= _) = _
      rw [Visitor.start, if_pos (length ▸ deep)]
      rfl
    · rw [if_neg deep]
      by_cases empty : size = 0
      · subst empty
        rw [if_pos rfl]
        dsimp only
        rw [same (.start kind 0)
          (congrArg (zone.objects + ·) (Nat.le_zero.mp (kind.objects_le 0)))]
        exact ready.visitStartEmpty supply kind (length ▸ deep)
      · rw [if_neg empty]
        exact ready.visitStart supply kind (length ▸ deep) empty zone charged

/-! ### The whole loop -/

/-- The loop ends like the one that works on objects, with what that one returns where the root
is, and allocates what the zone is charged. -/
theorem Ready.execute (supplies : List UInt8 → Supply) {visitor : Visitor}
    (ready : Ready stack visitor) {zone : Zone}
    (charged : visitor.memory.sizes.sum = zone.objects + 1) (turns : ℕ) (bytes : List UInt8) :
    let built := executeAt supplies turns bytes (stack.map StackElem.counter) visitor
    built.2.sizes.sum = (construct supplies turns bytes stack zone).2.objects + 1 ∧
      match (construct supplies turns bytes stack zone).1 with
      | .error thrown => built.1 = .error (.thrown thrown)
      | .ok (object, rest) => built.1 = .ok rest ∧ Lies built.2 root [object] := by
  induction turns generalizing bytes stack visitor zone with
  | zero => exact ⟨charged, rfl⟩
  | succ turns inductionHypothesis =>
    obtain ⟨memory, top, pointers, rfl⟩ : ∃ memory top pointers,
        visitor = ⟨memory, top :: pointers⟩ := by
      obtain ⟨memory, _ | ⟨top, pointers⟩⟩ := visitor
      · cases ready.follows
      · exact ⟨memory, top, pointers, rfl⟩
    rw [construct, executeAt]
    rcases token bytes with thrown | ⟨next, rest⟩
    · exact ⟨charged, rfl⟩
    · have visited := ready.visit (supplies rest) next zone charged
      dsimp only at visited ⊢
      rcases advanced : advance next stack with thrown | progress
      · rw [advanced] at visited
        obtain ⟨visitor, threw, cells⟩ := visited
        rw [threw]
        exact ⟨cells, rfl⟩
      · rw [advanced] at visited
        dsimp only at visited ⊢
        split_ifs at visited ⊢ with enough
        · cases progress with
          | success object =>
            obtain ⟨visitor, built, cells, lies⟩ := visited
            rw [built]
            exact ⟨cells, rfl, lies⟩
          | next after =>
            obtain ⟨more, visitor, built, cells, ready⟩ := visited
            obtain ⟨elem, below, rfl⟩ := List.exists_cons_of_ne_nil more
            rw [built]
            exact inductionHypothesis ready cells rest
        · obtain ⟨visitor, threw, cells⟩ := visited
          rw [threw]
          exact ⟨cells, rfl⟩

theorem ready_init : Ready [] .init where
  follows := .nil Nat.one_pos
  ahead := ⟨List.forall_mem_singleton.mpr fun _ => rfl, List.pairwise_singleton _ _⟩
  unwritten _ _ := rfl

/-- The parser writes nowhere but in the blocks that its visitor has allocated, which have a cell
for the root and for each object that the zone is charged. Where there is memory for every token it
throws what `unpack` throws, and where `unpack` returns an object that object lies in memory, and
no other. Otherwise it throws `std::bad_alloc`. -/
theorem unpackAt_builds (supplies : List UInt8 → Supply) (data : List UInt8) :
    (unpackAt supplies data).2.sizes.sum = (unpackZone supplies data).2.objects + 1 ∧
      (Supplied supplies data →
        match unpack data with
        | .error thrown => (unpackAt supplies data).1 = .error (.thrown thrown)
        | .ok (object, rest) => (unpackAt supplies data).1 = .ok rest ∧
            ∀ other, Lies (unpackAt supplies data).2 root [other] ↔ other = object) ∧
      (¬ Supplied supplies data → (unpackAt supplies data).1 = .error (.thrown badAlloc)) := by
  obtain ⟨cells, built⟩ := @Ready.execute _ supplies _ ready_init ⟨0, 0⟩ rfl data.length data
  rw [construct_fst] at built
  refine ⟨cells, fun enough => ?_, fun short => ?_⟩
  · rw [List.all_eq_true.mpr enough, cond_true] at built
    rw [unpack, parse, unpackAt]
    rcases ended : execute data.length data [] with thrown | ⟨object, rest⟩
    · rw [ended] at built
      exact built
    · rw [ended] at built
      obtain ⟨returned, lies⟩ := built
      refine ⟨returned, fun other => ⟨fun lies' => ?_, fun same => same ▸ lies⟩⟩
      exact List.singleton_inj.mp (lies'.unique lies rfl)
  · rw [Bool.eq_false_iff.mpr fun all => short (List.all_eq_true.mp all), cond_false] at built
    exact built

/-- An array of a number and an empty map. -/
example : ((unpackAt (fun _ => .all) [0x92, 0x05, 0x80]).2.cells root,
    (unpackAt (fun _ => .all) [0x92, 0x05, 0x80]).2.cells ⟨2, 0⟩,
    (unpackAt (fun _ => .all) [0x92, 0x05, 0x80]).2.cells ⟨2, 1⟩) =
      (some (.container .array 2 ⟨2, 0⟩), some (.leaf (.positiveInteger 5)),
        some (.container .map 0 .null)) :=
  rfl

/-- The start of a map that is too large for the memory there is. -/
example : (unpackAt (fun _ => .nothing) [0xdf, 0xff, 0xff, 0xff, 0xff]).1 =
    .error (.thrown badAlloc) :=
  rfl

end RpcInstance.Msgpack
