/-
This file is about the memory that the visitor of the parser takes for a payload.

A container is allocated whole where it starts, from the size that it declares. So a
payload that decodes costs at most one object or one copied byte for each of its bytes,
whereas one that is refused may cost much more: the five bytes that start a map can
declare `2 * (2 ^ 32 - 1)` objects, no payload costs more for its length, and nested maps
of this kind cost as much, or end with `std::bad_alloc` at the first one that there is no
memory for.

Any request for memory may be refused. The first chunk of the zone and the room that the
two stacks reserve are there before the loop starts.
-/

import RpcInstance.Msgpack.Forms

namespace RpcInstance.Msgpack

open BigEndian

/-! ### Allocation -/

/-- What was taken from a `msgpack::zone`: objects, and bytes that were copied. -/
structure Zone where
  objects : ℕ
  bytes : ℕ
  deriving DecidableEq, Repr

/-- The bytes behind a `ptr` of an object. -/
def Object.body : Object → List UInt8
  | .str bytes => bytes
  | .bin bytes => bytes
  | .ext _ bytes => bytes
  | _ => []

/-- The objects that a container is made of. -/
def Container.objects : Container → ℕ → ℕ
  | .array, size => size
  | .map, size => 2 * size

/-- The visitor copies a run of bytes, and it allocates a container before it sees an entry. -/
def Zone.visit (zone : Zone) : Token → Zone
  | .value object => { zone with bytes := zone.bytes + object.body.length }
  | .start kind size => { zone with objects := zone.objects + kind.objects size }

/-- What a turn of the loop gets of the memory that it asks for. One that finds room in the chunk
and on the stacks asks for nothing, and so has all. -/
inductive Supply where
  | nothing
  /-- What the zone is asked for, but no room on a stack where an element is pushed. -/
  | noStack
  | all
  deriving DecidableEq, Repr

/-- Whether it is enough. A start pushes on a stack, and `allocate_align` finds room for no bytes
in every chunk. -/
def Supply.suffices : Supply → Token → Bool
  | .all, _ => true
  | .noStack, .value _ => true
  | .noStack, .start _ _ => false
  | .nothing, .value object => object.body.isEmpty
  | .nothing, .start _ _ => false

@[simp] theorem Supply.suffices_all (next : Token) : Supply.all.suffices next = true := rfl

@[simp] theorem Supply.suffices_nothing_start (kind : Container) (size : ℕ) :
    Supply.nothing.suffices (.start kind size) = false := rfl

/-- The zone after its part of a turn. -/
def Zone.take (zone : Zone) (supply : Supply) (next : Token) : Zone :=
  if supply = .nothing then zone else zone.visit next

/-- The loop of the parser with the zone of its visitor. The supply of a turn may be any other for
each turn, that is for each rest of the data. -/
def construct (supplies : List UInt8 → Supply) : ℕ → List UInt8 → List StackElem → Zone →
    Except Thrown (Object × List UInt8) × Zone
  | 0, _, _, zone => (.error insufficientBytes, zone)
  | turns + 1, bytes, stack, zone =>
    match token bytes with
    | .error thrown => (.error thrown, zone)
    | .ok (next, rest) =>
      match advance next stack with
      | .error thrown => (.error thrown, zone)
      | .ok progress =>
        if (supplies rest).suffices next then
          match progress with
          | .success object => (.ok (object, rest), zone.take (supplies rest) next)
          | .next stack => construct supplies turns rest stack (zone.take (supplies rest) next)
        else (.error badAlloc, zone.take (supplies rest) next)

/-- What the parser ends with on some data, and what its visitor has allocated then. -/
def unpackZone (supplies : List UInt8 → Supply) (data : List UInt8) :
    Except Thrown (Object × List UInt8) × Zone :=
  construct supplies data.length data [] ⟨0, 0⟩

/-- The tokens that the loop visits, each with the bytes behind it. -/
def visited : ℕ → List UInt8 → List StackElem → List (Token × List UInt8)
  | 0, _, _ => []
  | turns + 1, bytes, stack =>
    match token bytes with
    | .error _ => []
    | .ok (next, rest) =>
      match advance next stack with
      | .error _ => []
      | .ok (.success _) => [(next, rest)]
      | .ok (.next stack) => (next, rest) :: visited turns rest stack

/-- There is memory for every token of the data that the parser visits. -/
def Supplied (supplies : List UInt8 → Supply) (data : List UInt8) : Prop :=
  ∀ entry ∈ visited data.length data [], (supplies entry.2).suffices entry.1

/-- The zone is only looked at by the visitor, and the loop ends at the first token that it has too
little memory for. -/
theorem construct_fst (supplies : List UInt8 → Supply) (turns : ℕ) (bytes : List UInt8)
    (stack : List StackElem) (zone : Zone) :
    (construct supplies turns bytes stack zone).1 =
      bif (visited turns bytes stack).all fun entry => (supplies entry.2).suffices entry.1 then
        execute turns bytes stack
      else .error badAlloc := by
  induction turns generalizing bytes stack zone with
  | zero => rfl
  | succ turns inductionHypothesis =>
    rw [construct, execute, visited]
    rcases token bytes with thrown | ⟨next, rest⟩
    · rfl
    · dsimp only
      rcases advance next stack with thrown | object | after
      · rfl
      · dsimp only
        rw [List.all_cons, List.all_nil, Bool.and_true]
        cases (supplies rest).suffices next <;> rfl
      · dsimp only
        rw [List.all_cons]
        cases (supplies rest).suffices next
        · rfl
        · exact inductionHypothesis rest after _

/-! ### Less memory, less cost -/

/-- One zone holds no more than another one. -/
structure Zone.Within (zone other : Zone) : Prop where
  objects : zone.objects ≤ other.objects
  bytes : zone.bytes ≤ other.bytes

namespace Zone.Within

variable {zone other more : Zone}

theorem refl (zone : Zone) : zone.Within zone :=
  ⟨Nat.le_refl _, Nat.le_refl _⟩

theorem trans (first : zone.Within other) (second : other.Within more) : zone.Within more :=
  ⟨first.objects.trans second.objects, first.bytes.trans second.bytes⟩

theorem visit (zone : Zone) (next : Token) : zone.Within (zone.visit next) := by
  cases next with
  | value object => exact ⟨Nat.le_refl _, Nat.le_add_right _ _⟩
  | start kind size => exact ⟨Nat.le_add_right _ _, Nat.le_refl _⟩

theorem take (zone : Zone) (supply : Supply) (next : Token) :
    (zone.take supply next).Within (zone.visit next) := by
  unfold Zone.take
  split_ifs with refused
  · exact .visit zone next
  · exact .refl _

end Zone.Within

/-- A supply that is enough leaves the zone as the visitor wants it. -/
theorem Zone.take_of_suffices {supply : Supply} {next : Token} (zone : Zone)
    (enough : supply.suffices next) : zone.take supply next = zone.visit next := by
  unfold Zone.take
  split_ifs with refused
  · subst refused
    cases next with
    | value object =>
      have empty : object.body = [] := List.isEmpty_iff.mp enough
      rw [Zone.visit, empty]
      rfl
    | start kind size => cases enough
  · rfl

/-- The loop never gives anything back. -/
theorem Zone.Within.construct (turns : ℕ) (bytes : List UInt8) (stack : List StackElem)
    (zone : Zone) : zone.Within (Msgpack.construct (fun _ => .all) turns bytes stack zone).2 := by
  induction turns generalizing bytes stack zone with
  | zero => exact .refl zone
  | succ turns inductionHypothesis =>
    rw [Msgpack.construct]
    rcases token bytes with thrown | ⟨next, rest⟩
    · exact .refl zone
    · dsimp only
      rcases advance next stack with thrown | progress
      · exact .refl zone
      · cases progress with
        | success object => exact .visit zone next
        | next stack => exact (Zone.Within.visit zone next).trans (inductionHypothesis rest stack _)

/-- Where memory is refused, the visitor has not taken more than it would have otherwise. -/
theorem construct_within (supplies : List UInt8 → Supply) (turns : ℕ) (bytes : List UInt8)
    (stack : List StackElem) (zone : Zone) :
    (construct supplies turns bytes stack zone).2.Within
      (construct (fun _ => .all) turns bytes stack zone).2 := by
  induction turns generalizing bytes stack zone with
  | zero => exact .refl zone
  | succ turns inductionHypothesis =>
    rw [construct, construct]
    rcases token bytes with thrown | ⟨next, rest⟩
    · exact .refl zone
    · dsimp only
      rcases advance next stack with thrown | progress
      · exact .refl zone
      · have taken := Zone.Within.take zone (supplies rest) next
        dsimp only
        rw [if_pos (Supply.suffices_all next)]
        cases progress with
        | success object => split_ifs <;> exact taken
        | next stack =>
          split_ifs with enough
          · rw [zone.take_of_suffices enough]
            exact inductionHypothesis rest stack _
          · exact taken.trans (.construct turns rest stack _)

/-! ### The price of a token -/

theorem visitNegativeInteger_body (value : ℤ) : (visitNegativeInteger value).body = [] := by
  unfold visitNegativeInteger
  split <;> rfl

theorem visitExt_body (bytes : List UInt8) : (visitExt bytes).body.length ≤ bytes.length :=
  List.length_take_le' _ bytes

theorem Raw.visit_body (kind : Raw) (bytes : List UInt8) :
    (kind.visit bytes).body.length ≤ bytes.length := by
  cases kind with
  | str => exact Nat.le_refl _
  | bin => exact Nat.le_refl _
  | ext => exact visitExt_body bytes

/-- An object has its body and its first byte in the input. -/
theorem body_lt {object : Object} {front : List UInt8}
    (spelled : (Token.value object).Spells front) : object.body.length < front.length := by
  obtain ⟨selector, rest, rfl, announced⟩ := spells_iff.mp spelled
  rw [List.length_cons, Nat.lt_succ_iff]
  rw [announces_value_iff] at announced
  have entry := head_entry selector
  generalize head selector = first at announced entry
  cases entry with
  | string size small =>
    obtain ⟨-, rfl⟩ := announced
    exact Nat.le_refl _
  | extension width =>
    obtain ⟨-, rfl⟩ := announced
    exact visitExt_body rest
  | sized kind width member =>
    obtain ⟨size, body, rfl, -, -, rfl⟩ := announced
    rw [List.length_append]
    exact (kind.visit_body body).trans (Nat.le_add_left _ _)
  | signed width member =>
    obtain ⟨-, rfl⟩ := announced
    rw [visitNegative, visitNegativeInteger_body]
    exact Nat.zero_le _
  | negative selector large =>
    obtain ⟨rfl, -⟩ := announced
    rw [visitNegative, visitNegativeInteger_body]
    exact Nat.zero_le _
  | positive | nil | boolean =>
    obtain ⟨rfl, -⟩ := announced
    exact Nat.zero_le _
  | float32 | float64 | unsigned =>
    obtain ⟨-, rfl⟩ := announced
    exact Nat.zero_le _
  | container | counted | invalid => exact announced.elim

theorem Container.objects_le (kind : Container) (size : ℕ) : kind.objects size ≤ 2 * size := by
  cases kind with
  | array => exact Nat.le_mul_of_pos_left size Nat.two_pos
  | map => exact Nat.le_refl _

/-- No start of a container declares more for its length than that of a map in five bytes. -/
theorem objects_le {kind : Container} {size : ℕ} {front : List UInt8}
    (spelled : (Token.start kind size).Spells front) :
    5 * kind.objects size ≤ 2 * 0xffffffff * front.length := by
  have declared := kind.objects_le size
  rcases spells_start spelled with ⟨length, small⟩ | ⟨width, known, length, fits⟩
  · omega
  · simp only [List.mem_cons, List.not_mem_nil, or_false] at known
    rcases known with rfl | rfl <;> omega

/-! ### Turns of the loop -/

/-- The objects of an open container behind the one that is read. -/
def StackElem.behind : StackElem → ℕ
  | .arrayItem rest _ => rest - 1
  | .mapKey rest _ => 2 * rest - 1
  | .mapValue rest _ _ => 2 * rest - 2

/-- The objects of all open containers behind those that are read. -/
def behind (stack : List StackElem) : ℕ :=
  (stack.map StackElem.behind).sum

/-- The objects that are allocated and not started. -/
def Progress.awaited : Progress → ℕ
  | .success _ => 0
  | .next stack => behind stack + 1

/-- Handing over an object, which is one of the objects that were awaited. -/
theorem behind_le_awaited (object : Object) (stack : List StackElem) :
    behind stack ≤ (consume object stack).awaited := by
  induction stack generalizing object with
  | nil => exact Nat.zero_le _
  | cons element below inductionHypothesis =>
    have split : behind (element :: below) = element.behind + behind below := List.sum_cons
    cases element with
    | arrayItem rest done =>
      rw [consume, split, StackElem.behind]
      split_ifs with last
      · rw [last, Nat.zero_add]
        exact inductionHypothesis _
      · simp only [Progress.awaited, behind, List.map_cons, List.sum_cons, StackElem.behind]
        omega
    | mapKey rest done =>
      rw [consume, split]
      simp only [Progress.awaited, behind, List.map_cons, List.sum_cons, StackElem.behind]
      omega
    | mapValue rest done key =>
      rw [consume, split, StackElem.behind]
      split_ifs with last
      · rw [show 2 * rest - 2 = 0 by omega, Nat.zero_add]
        exact inductionHypothesis _
      · simp only [Progress.awaited, behind, List.map_cons, List.sum_cons, StackElem.behind]
        omega

/-- What a zone may hold once some bytes are read: every object but the awaited ones took a byte,
and so did every byte that was copied. -/
structure Zone.Paid (zone : Zone) (read : ℕ) (awaited : ℕ) : Prop where
  started : zone.objects + zone.bytes + 1 ≤ read + awaited
  objects : 5 * zone.objects ≤ 2 * 0xffffffff * read
  bytes : zone.bytes ≤ read

/-- One turn of the loop. -/
theorem Zone.Paid.advance {zone : Zone} {read : ℕ} {stack : List StackElem} {next : Token}
    {front : List UInt8} {progress : Progress} (paid : zone.Paid read (behind stack + 1))
    (spelled : next.Spells front) (advanced : Msgpack.advance next stack = .ok progress) :
    (zone.visit next).Paid (read + front.length) progress.awaited := by
  obtain ⟨started, objects, bytes⟩ := paid
  cases next with
  | value object =>
    obtain rfl := Except.ok.inj advanced
    have short := body_lt spelled
    have handed := behind_le_awaited object stack
    constructor <;> dsimp only [Zone.visit] <;> omega
  | start kind size =>
    have positive := spelled.length_pos
    have price := objects_le spelled
    have enough : (zone.visit (.start kind size)).objects + zone.bytes + 1 ≤
        read + front.length + progress.awaited := by
      rw [Msgpack.advance, startAggregate] at advanced
      dsimp only [Zone.visit]
      split_ifs at advanced with deep none
      · obtain rfl := Except.ok.inj advanced
        have handed := behind_le_awaited kind.empty stack
        have nothing := kind.objects_le size
        omega
      · obtain rfl := Except.ok.inj advanced
        have opened : behind (kind.opened size :: stack) =
            (kind.opened size).behind + behind stack := List.sum_cons
        have waiting : kind.objects size ≤ (kind.opened size).behind + 1 := by
          cases kind <;> dsimp only [Container.objects, Container.opened, StackElem.behind] <;>
            omega
        rw [Progress.awaited, opened]
        omega
    exact ⟨enough, by dsimp only [Zone.visit]; omega, by dsimp only [Zone.visit]; omega⟩

/-- The whole loop, which stops with an error somewhere or with everything started. -/
theorem Zone.Paid.construct {turns : ℕ} {bytes : List UInt8} {stack : List StackElem}
    {zone : Zone} {read : ℕ} (paid : zone.Paid read (behind stack + 1)) :
    ∃ total awaited,
      (Msgpack.construct (fun _ => .all) turns bytes stack zone).2.Paid total awaited ∧
        total ≤ read + bytes.length ∧
        ∀ object rest, execute turns bytes stack = .ok (object, rest) →
          awaited = 0 ∧ total + rest.length = read + bytes.length := by
  induction turns generalizing bytes stack zone read with
  | zero => exact ⟨read, _, paid, Nat.le_add_right _ _, fun _ _ same => by cases same⟩
  | succ turns inductionHypothesis =>
    rw [Msgpack.construct, execute]
    rcases scanned : token bytes with thrown | ⟨next, rest⟩
    · exact ⟨read, _, paid, Nat.le_add_right _ _, fun _ _ same => by cases same⟩
    · obtain ⟨front, rfl, spelled⟩ := (reads_token _ _ _).mp scanned
      rw [List.length_append, ← Nat.add_assoc]
      dsimp only
      rcases advanced : Msgpack.advance next stack with thrown | object | stack
      · exact ⟨read, _, paid, by omega, fun _ _ same => by cases same⟩
      · refine ⟨_, 0, paid.advance spelled advanced, Nat.le_add_right _ _, fun _ _ same => ?_⟩
        obtain ⟨-, rfl⟩ := Prod.mk.inj (Except.ok.inj same)
        exact ⟨rfl, rfl⟩
      · exact inductionHypothesis (paid.advance spelled advanced)

/-- The loop on some data, from the start. -/
theorem unpackZone_paid (data : List UInt8) :
    ∃ total awaited, (unpackZone (fun _ => .all) data).2.Paid total awaited ∧
      total ≤ data.length ∧
      ∀ object rest, unpack data = .ok (object, rest) →
        awaited = 0 ∧ total + rest.length = data.length := by
  have start : (Zone.mk 0 0).Paid 0 (behind [] + 1) :=
    ⟨Nat.le_refl _, Nat.le_refl _, Nat.le_refl _⟩
  have ran := @Zone.Paid.construct data.length data [] _ _ start
  rwa [Nat.zero_add] at ran

theorem unpackZone_within (supplies : List UInt8 → Supply) (data : List UInt8) :
    (unpackZone supplies data).2.Within (unpackZone (fun _ => .all) data).2 :=
  construct_within supplies data.length data [] ⟨0, 0⟩

theorem unpackZone_objects_le (supplies : List UInt8 → Supply) (data : List UInt8) :
    5 * (unpackZone supplies data).2.objects ≤ 2 * 0xffffffff * data.length := by
  obtain ⟨total, awaited, paid, within, -⟩ := unpackZone_paid data
  calc 5 * (unpackZone supplies data).2.objects
      ≤ 5 * (unpackZone (fun _ => .all) data).2.objects :=
        Nat.mul_le_mul_left 5 (unpackZone_within supplies data).objects
    _ ≤ 2 * 0xffffffff * total := paid.objects
    _ ≤ 2 * 0xffffffff * data.length := Nat.mul_le_mul_left _ within

/-- What a payload costs, whatever memory is refused: what is allocated is at most proportional to
its length, and what is copied is not longer than it. A payload that can be decoded costs less than
one object or copied byte for each byte that is read. -/
theorem unpack_allocates (supplies : List UInt8 → Supply) (data : List UInt8) :
    5 * (unpackZone supplies data).2.objects ≤ 2 * 0xffffffff * data.length ∧
      (unpackZone supplies data).2.bytes ≤ data.length ∧
      ∀ object rest, unpack data = .ok (object, rest) →
        (unpackZone supplies data).2.objects + (unpackZone supplies data).2.bytes + rest.length <
          data.length := by
  obtain ⟨total, awaited, paid, within, whole⟩ := unpackZone_paid data
  obtain ⟨objects, bytes⟩ := unpackZone_within supplies data
  refine ⟨unpackZone_objects_le supplies data, bytes.trans (paid.bytes.trans within),
    fun object rest decoded => ?_⟩
  obtain ⟨rfl, consumed⟩ := whole object rest decoded
  have started := paid.started
  omega

/-- An array of a string and a map, which take four objects and two bytes, and a byte behind it. -/
theorem unpack_allocates_array :
    (unpackZone (fun _ => .all) [0x92, 0xa2, 0x61, 0x62, 0x81, 0x01, 0xc0, 0x00]).2 = ⟨4, 2⟩ ∧
      (unpackZone (fun _ => .all) [0x92, 0xa2, 0x61, 0x62, 0x81, 0x01, 0xc0, 0x00]).2.objects +
        (unpackZone (fun _ => .all) [0x92, 0xa2, 0x61, 0x62, 0x81, 0x01, 0xc0, 0x00]).2.bytes +
          1 < 8 :=
  ⟨rfl, (unpack_allocates (fun _ => .all) [0x92, 0xa2, 0x61, 0x62, 0x81, 0x01, 0xc0, 0x00]).2.2
    (.array [.str [0x61, 0x62], .map [(.positiveInteger 1, .nil)]]) [0x00] rfl⟩

/-! ### The most expensive payloads -/

/-- Starts of maps one inside the other, each of the greatest size there is. -/
def nestedMaps : ℕ → List UInt8
  | 0 => []
  | count + 1 => packMap 0xffffffff ++ nestedMaps count

theorem nestedMaps_length (count : ℕ) : (nestedMaps count).length = 5 * count := by
  induction count with
  | zero => rfl
  | succ count inductionHypothesis =>
    rw [nestedMaps, List.length_append, inductionHypothesis, packMap, if_neg (by decide),
      if_neg (by decide), List.length_cons, toBytes_length]
    omega

/-- The turn that reads the first of the maps. -/
theorem construct_nestedMaps_succ (supplies : List UInt8 → Supply) (turns count : ℕ)
    {stack : List StackElem} (zone : Zone) (room : stack.length + 1 ≤ depthLimit) :
    construct supplies (turns + 1) (nestedMaps (count + 1)) stack zone =
      if (supplies (nestedMaps count)).suffices (.start .map 0xffffffff) then
        construct supplies turns (nestedMaps count) (.mapKey 0xffffffff [] :: stack)
          { zone with objects := zone.objects + 2 * 0xffffffff }
      else (.error badAlloc,
        zone.take (supplies (nestedMaps count)) (.start .map 0xffffffff)) := by
  have scanned := (reads_token _ _ (nestedMaps count)).mpr
    ⟨_, rfl, @packMap_spells 0xffffffff (by decide)⟩
  rw [construct, nestedMaps, scanned]
  dsimp only
  rw [advance_start room, if_neg (by decide)]
  dsimp only
  split_ifs with enough
  · rw [zone.take_of_suffices enough]
    rfl
  · rfl

/-- The loop reads map after map while there is memory. -/
theorem construct_nestedMaps {supplies : List UInt8 → Supply} {granted left turns : ℕ}
    {stack : List StackElem} (zone : Zone) (room : stack.length + granted ≤ depthLimit)
    (enough : ∀ later < granted, supplies (nestedMaps (later + left)) = .all) :
    ∃ after, after.length = stack.length + granted ∧
      construct supplies (turns + granted) (nestedMaps (granted + left)) stack zone =
        construct supplies turns (nestedMaps left) after
          { zone with objects := zone.objects + 2 * 0xffffffff * granted } := by
  induction granted generalizing stack zone with
  | zero => exact ⟨stack, rfl, by rw [Nat.zero_add]; rfl⟩
  | succ granted inductionHypothesis =>
    obtain ⟨after, length, same⟩ := @inductionHypothesis (.mapKey 0xffffffff [] :: stack)
      { zone with objects := zone.objects + 2 * 0xffffffff }
      (by rw [List.length_cons]; omega) fun later small => enough later (Nat.lt_succ_of_lt small)
    refine ⟨after, by rw [length, List.length_cons]; omega, ?_⟩
    rw [Nat.succ_add, ← Nat.add_assoc, construct_nestedMaps_succ _ _ _ _ (by omega),
      enough granted (Nat.lt_succ_self _), if_pos (Supply.suffices_all _), same]
    simp only [Nat.mul_add, Nat.mul_one, Nat.add_assoc, Nat.add_comm]

/-- Nested maps are charged to the last one while there is memory, then they are refused. Where
the zone has nothing for one of them they end there, with those before it charged. No data of
their length costs more than all of them. -/
theorem nestedMaps_dearest (count : ℕ) (shallow : count ≤ depthLimit) :
    unpackZone (fun _ => .all) (nestedMaps count) =
        (.error insufficientBytes, ⟨2 * 0xffffffff * count, 0⟩) ∧
      (∀ supplies granted left, granted + (left + 1) = count →
        (∀ later < granted, supplies (nestedMaps (later + (left + 1))) = .all) →
        supplies (nestedMaps left) = .nothing →
          unpackZone supplies (nestedMaps count) =
            (.error badAlloc, ⟨2 * 0xffffffff * granted, 0⟩)) ∧
      ∀ supplies data, data.length = (nestedMaps count).length →
        (unpackZone supplies data).2.objects ≤ 2 * 0xffffffff * count := by
  have length := nestedMaps_length count
  refine ⟨?_, fun supplies granted left split enough refused => ?_, fun supplies data same => ?_⟩
  · obtain ⟨after, -, ran⟩ := @construct_nestedMaps (fun _ => .all) count 0 (4 * count) []
      ⟨0, 0⟩ (by rwa [List.length_nil, Nat.zero_add]) fun _ _ => rfl
    rw [unpackZone, length, show 5 * count = 4 * count + count by omega]
    refine ran.trans ?_
    rw [Nat.zero_add]
    cases 4 * count <;> rfl
  · subst split
    obtain ⟨after, deep, ran⟩ := @construct_nestedMaps supplies granted (left + 1)
      (4 * granted + 5 * left + 4 + 1) [] ⟨0, 0⟩ (by rw [List.length_nil]; omega) enough
    rw [List.length_nil, Nat.zero_add] at deep
    rw [unpackZone, length,
      show 5 * (granted + (left + 1)) = 4 * granted + 5 * left + 4 + 1 + granted by omega, ran,
      construct_nestedMaps_succ _ _ _ _ (by omega), refused, Supply.suffices_nothing_start,
      if_neg Bool.false_ne_true, Zone.take, if_pos rfl, Nat.zero_add]
  · have bound := unpackZone_objects_le supplies data
    omega

/-- Two maps, with memory for both of them, and then for the first one only. -/
theorem nestedMaps_dearest_two :
    unpackZone (fun _ => .all) (nestedMaps 2) = (.error insufficientBytes, ⟨17179869180, 0⟩) ∧
      unpackZone (fun rest => if rest = [] then .nothing else .all) (nestedMaps 2) =
        (.error badAlloc, ⟨8589934590, 0⟩) ∧
      ∀ supplies data, data.length = (nestedMaps 2).length →
        (unpackZone supplies data).2.objects ≤ 17179869180 :=
  have dearest := nestedMaps_dearest 2 (by decide)
  ⟨dearest.1, dearest.2.1 (fun rest => if rest = [] then .nothing else .all) 1 0 rfl
    (fun later small => by obtain rfl := Nat.lt_one_iff.mp small; rfl) rfl, dearest.2.2⟩

end RpcInstance.Msgpack
