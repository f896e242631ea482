/-
This file models how argument tuples are packed and how a parsed object is
converted back to one.

An argument type is known by its adaptors: how a value is packed, and how an
object is converted. A tuple is converted in one of two ways. Where no component
has an `as` adaptor, the elements of the array are converted into the components
from the first on, each only if the array is long enough, and the components that
are left keep their initial value. Where some component has one, the components
are taken from the last elements of the array, which is not checked for its
length.
-/

import RpcInstance.Msgpack.Unpack

namespace RpcInstance.Msgpack

open BigEndian

/-! ### Argument types -/

/-- What packing a value comes to: the bytes that are appended, or an exception. -/
abbrev Packed := Except Thrown (List UInt8)

/-- An argument type, by the adaptors msgpack finds for it. -/
structure ArgType where
  Value : Type
  /-- `adaptor::pack`. -/
  pack : Value → Packed
  /-- The value that a component of a fresh tuple has. -/
  initial : Value
  /-- `adaptor::convert`, which writes to a component that already has a value. -/
  convert : Object → Value → Except Thrown Value
  /-- `adaptor::as`, for the types that have it. -/
  as : Option (Object → Except Thrown Value)
  /-- `std::vector` of this type has adaptors of its own. -/
  ownVector : Bool := false

/-- Argument tuples. -/
def Tuple : List ArgType → Type
  | [] => Unit
  | T :: Ts => T.Value × Tuple Ts

/-- One more argument in front. -/
def Tuple.cons {T : ArgType} {Ts : List ArgType} (value : T.Value) (values : Tuple Ts) :
    Tuple (T :: Ts) :=
  (value, values)

/-- A fresh tuple. -/
def Tuple.initial : (Ts : List ArgType) → Tuple Ts
  | [] => ()
  | T :: Ts => .cons T.initial (Tuple.initial Ts)

/-- `type_error`, which is a `std::bad_cast`. -/
def typeError : Thrown := .exception "std::bad_cast"

/-- `container_size_overflow`. -/
def containerSizeOverflow : Thrown := .exception "container size overflow"

/-- The size of a container, as far as it fits into 32 bits. -/
def checkedGetContainerSize (size : ℕ) : Except Thrown ℕ :=
  if 0xffffffff < size then .error containerSizeOverflow else .ok size

/-! ### Packing -/

/-- The start of an array, in the shortest format. -/
def packArray (size : ℕ) : List UInt8 :=
  if size < 16 then [0x90 ||| UInt8.ofNat size]
  else if size < 65536 then 0xdc :: toBytes 2 size
  else 0xdd :: toBytes 4 size

/-- The start of a string, in the shortest format. -/
def packStr (size : ℕ) : List UInt8 :=
  if size < 32 then [0xa0 ||| UInt8.ofNat size]
  else if size < 256 then 0xd9 :: toBytes 1 size
  else if size < 65536 then 0xda :: toBytes 2 size
  else 0xdb :: toBytes 4 size

/-- Every argument in order. -/
def packAll : List Packed → Packed
  | [] => .ok []
  | arg :: args => do
    let front ← arg
    let back ← packAll args
    return front ++ back

/-- `msgpack_codec::pack_args`: the arguments are packed as one array. -/
def packArgs (args : List Packed) : Packed := do
  let size ← checkedGetContainerSize args.length
  let body ← packAll args
  return packArray size ++ body

theorem packArgs_one (bytes : List UInt8) :
    packArgs [.ok bytes] = .ok (packArray 1 ++ (bytes ++ [])) := rfl

/-- The components of a tuple, each as it is packed. -/
def Tuple.packed : (Ts : List ArgType) → Tuple Ts → List Packed
  | [], _ => []
  | T :: Ts, (value, values) => T.pack value :: Tuple.packed Ts values

/-! ### Converting -/

/-- One step of `StdTupleConverter`: the component is written if the array has the element. -/
def ArgType.convertItem (T : ArgType) (slot : T.Value) : Option Object → Except Thrown T.Value
  | some item => T.convert item slot
  | none => .ok slot

/-- `StdTupleConverter`, from the component at `index` on. -/
def convertTuple : (Ts : List ArgType) → ℕ → List Object → Tuple Ts → Except Thrown (Tuple Ts)
  | [], _, _, _ => .ok ()
  | T :: Ts, index, items, (slot, slots) => do
    let value ← T.convertItem slot items[index]?
    let values ← convertTuple Ts (index + 1) items slots
    return .cons value values

/-- `object::as` of one element. -/
def ArgType.objectAs (T : ArgType) (item : Object) : Except Thrown T.Value :=
  match T.as with
  | some as => as item
  | none => T.convert item T.initial

/-- The element at some distance from the end of an array. Where the array is shorter, the access
is outside of it. -/
def fromEnd (items : List Object) (distance : ℕ) : Except Failure Object :=
  if items.length < distance then .error (.undefined .outOfBounds)
  else
    match items[items.length - distance]? with
    | some item => .ok item
    | none => .error (.undefined .outOfBounds)

/-- `StdTupleAs`, which finds each element by its distance from the end. -/
def tupleAs : (Ts : List ArgType) → List Object → Except Failure (Tuple Ts)
  | [], _ => .ok ()
  | T :: Ts, items => do
    let item ← fromEnd items (Ts.length + 1)
    let value ← (T.objectAs item).mapError .thrown
    let values ← tupleAs Ts items
    return .cons value values

/-- Some component type has an `as` adaptor, and so has the tuple. -/
def hasAs (Ts : List ArgType) : Bool :=
  Ts.any fun T => T.as.isSome

/-- `object::as` of a tuple type. -/
def asTuple (Ts : List ArgType) : Object → Except Failure (Tuple Ts)
  | .array items =>
    if hasAs Ts then tupleAs Ts items
    else (convertTuple Ts 0 items (Tuple.initial Ts)).mapError .thrown
  | _ => .error (.thrown typeError)

/-! ### Which arrays convert to which tuples -/

/-- The elements convert to the components in order. Elements beyond the last component are
ignored, and components beyond the last element keep their initial value. -/
def Accepts : (Ts : List ArgType) → List Object → Tuple Ts → Prop
  | [], _, _ => True
  | T :: Ts, [], values => values = Tuple.initial (T :: Ts)
  | T :: Ts, item :: items, (value, values) =>
    T.convert item T.initial = .ok value ∧ Accepts Ts items values

/-- The elements convert to the components one to one. -/
def AcceptsAs : (Ts : List ArgType) → List Object → Tuple Ts → Prop
  | [], [], _ => True
  | T :: Ts, item :: items, (value, values) =>
    T.objectAs item = .ok value ∧ AcceptsAs Ts items values
  | _, _, _ => False

/-- The elements of an array convert to a tuple, in the way its component types are converted. -/
def Converts (Ts : List ArgType) (items : List Object) (values : Tuple Ts) : Prop :=
  if hasAs Ts then
    Ts.length ≤ items.length ∧ AcceptsAs Ts (items.drop (items.length - Ts.length)) values
  else Accepts Ts items values

theorem cons_eq_cons_iff {T : ArgType} {Ts : List ArgType} {value other : T.Value}
    {values others : Tuple Ts} :
    Tuple.cons value values = Tuple.cons other others ↔ value = other ∧ values = others :=
  Prod.mk.injEq .. ▸ Iff.rfl

theorem accepts_nil_iff (Ts : List ArgType) (values : Tuple Ts) :
    Accepts Ts [] values ↔ values = Tuple.initial Ts := by
  cases Ts with
  | nil => exact iff_of_true trivial rfl
  | cons T Ts => exact Iff.rfl

theorem convertTuple_cons_iff {T : ArgType} {Ts : List ArgType} {index : ℕ} {items : List Object}
    {value : T.Value} {values : Tuple Ts} :
    convertTuple (T :: Ts) index items (Tuple.initial (T :: Ts)) = .ok (.cons value values) ↔
      T.convertItem T.initial items[index]? = .ok value ∧
        convertTuple Ts (index + 1) items (Tuple.initial Ts) = .ok values := by
  show (T.convertItem T.initial items[index]? >>= fun value =>
    convertTuple Ts (index + 1) items (Tuple.initial Ts) >>= fun values =>
      pure (Tuple.cons value values)) = .ok (Tuple.cons value values) ↔ _
  rw [bind_eq_ok_iff]
  constructor
  · rintro ⟨first, converted, rest⟩
    obtain ⟨others, converted', same⟩ := bind_eq_ok_iff.mp rest
    obtain ⟨rfl, rfl⟩ := cons_eq_cons_iff.mp (Except.ok.inj same)
    exact ⟨converted, converted'⟩
  · rintro ⟨converted, converted'⟩
    exact ⟨value, converted, bind_eq_ok_iff.mpr ⟨values, converted', rfl⟩⟩

theorem convertTuple_eq_ok_iff (Ts : List ArgType) (index : ℕ) (items : List Object)
    (values : Tuple Ts) :
    convertTuple Ts index items (Tuple.initial Ts) = .ok values ↔
      Accepts Ts (items.drop index) values := by
  induction Ts generalizing index with
  | nil => exact iff_of_true rfl trivial
  | cons T Ts inductionHypothesis =>
    obtain ⟨value, values⟩ := values
    refine convertTuple_cons_iff.trans ?_
    rw [inductionHypothesis]
    by_cases inside : index < items.length
    · rw [List.getElem?_eq_getElem inside, List.drop_eq_getElem_cons inside]
      exact Iff.rfl
    · have outside : items.length ≤ index := Nat.not_lt.mp inside
      rw [List.getElem?_eq_none outside, List.drop_eq_nil_of_le outside,
        List.drop_eq_nil_of_le (outside.trans (Nat.le_succ index)), accepts_nil_iff]
      show _ ↔ Tuple.cons value values = Tuple.cons T.initial (Tuple.initial Ts)
      rw [cons_eq_cons_iff]
      refine and_congr_left' ?_
      exact ⟨fun same => (Except.ok.inj same).symm, fun same => congrArg _ same.symm⟩

theorem fromEnd_eq_ok_iff {items : List Object} {distance : ℕ} {item : Object} :
    fromEnd items distance = .ok item ↔
      distance ≤ items.length ∧ items[items.length - distance]? = some item := by
  unfold fromEnd
  by_cases short : items.length < distance
  · rw [if_pos short]
    exact iff_of_false (fun same => nomatch same) fun long => Nat.not_le.mpr short long.1
  · rw [if_neg short]
    rcases items[items.length - distance]? with _ | found
    · exact iff_of_false (fun same => nomatch same) fun long => nomatch long.2
    · constructor
      · exact fun same => ⟨Nat.not_lt.mp short, congrArg some (Except.ok.inj same)⟩
      · exact fun same => congrArg _ (Option.some.inj same.2)

theorem tupleAs_cons_iff {T : ArgType} {Ts : List ArgType} {items : List Object} {value : T.Value}
    {values : Tuple Ts} :
    tupleAs (T :: Ts) items = .ok (.cons value values) ↔
      (∃ item, fromEnd items (Ts.length + 1) = .ok item ∧ T.objectAs item = .ok value) ∧
        tupleAs Ts items = .ok values := by
  show (fromEnd items (Ts.length + 1) >>= fun item =>
    (T.objectAs item).mapError .thrown >>= fun value =>
      tupleAs Ts items >>= fun values => pure (Tuple.cons value values)) =
        .ok (Tuple.cons value values) ↔ _
  rw [bind_eq_ok_iff]
  constructor
  · rintro ⟨item, found, rest⟩
    obtain ⟨first, converted, rest'⟩ := bind_eq_ok_iff.mp rest
    obtain ⟨others, converted', same⟩ := bind_eq_ok_iff.mp rest'
    obtain ⟨rfl, rfl⟩ := cons_eq_cons_iff.mp (Except.ok.inj same)
    exact ⟨⟨item, found, mapError_eq_ok_iff.mp converted⟩, converted'⟩
  · rintro ⟨⟨item, found, converted⟩, converted'⟩
    exact ⟨item, found, bind_eq_ok_iff.mpr ⟨value, mapError_eq_ok_iff.mpr converted,
      bind_eq_ok_iff.mpr ⟨values, converted', rfl⟩⟩⟩

theorem tupleAs_eq_ok_iff (Ts : List ArgType) (items : List Object) (values : Tuple Ts) :
    tupleAs Ts items = .ok values ↔
      Ts.length ≤ items.length ∧ AcceptsAs Ts (items.drop (items.length - Ts.length)) values := by
  induction Ts with
  | nil =>
    rw [List.length_nil, Nat.sub_zero, List.drop_length]
    exact iff_of_true rfl ⟨Nat.zero_le _, trivial⟩
  | cons T Ts inductionHypothesis =>
    obtain ⟨value, values⟩ := values
    refine tupleAs_cons_iff.trans ?_
    rw [inductionHypothesis, List.length_cons]
    by_cases enough : Ts.length + 1 ≤ items.length
    · have inside : items.length - (Ts.length + 1) < items.length := by omega
      have next : items.length - (Ts.length + 1) + 1 = items.length - Ts.length := by omega
      rw [List.drop_eq_getElem_cons inside, next]
      constructor
      · rintro ⟨⟨item, found, converted⟩, -, accepted⟩
        rw [fromEnd_eq_ok_iff, List.getElem?_eq_getElem inside] at found
        obtain rfl := Option.some.inj found.2
        exact ⟨enough, converted, accepted⟩
      · rintro ⟨-, converted, accepted⟩
        refine ⟨⟨_, fromEnd_eq_ok_iff.mpr ⟨enough, List.getElem?_eq_getElem inside⟩, converted⟩, ?_⟩
        exact ⟨(Nat.le_succ _).trans enough, accepted⟩
    · refine iff_of_false ?_ fun long => enough long.1
      rintro ⟨⟨item, found, -⟩, -⟩
      exact enough (fromEnd_eq_ok_iff.mp found).1

/-- Conversion by `as` is only undefined on an array that is too short. -/
theorem tupleAs_defined {Ts : List ArgType} {items : List Object} {fault : Fault}
    (enough : Ts.length ≤ items.length) : tupleAs Ts items ≠ .error (.undefined fault) := by
  induction Ts with
  | nil => exact fun same => nomatch same
  | cons T Ts inductionHypothesis =>
    have inside : items.length - (Ts.length + 1) < items.length := by
      rw [List.length_cons] at enough
      omega
    have found : fromEnd items (Ts.length + 1) = .ok items[items.length - (Ts.length + 1)] :=
      fromEnd_eq_ok_iff.mpr ⟨enough, List.getElem?_eq_getElem inside⟩
    rw [tupleAs, found]
    show ((T.objectAs items[items.length - (Ts.length + 1)]).mapError Failure.thrown >>=
      fun value => tupleAs Ts items >>= fun values => pure (Tuple.cons value values)) ≠ _
    rcases T.objectAs items[items.length - (Ts.length + 1)] with thrown | value
    · exact fun same => nomatch same
    · have defined := inductionHypothesis ((Nat.le_succ _).trans enough)
      show (tupleAs Ts items >>= fun values => pure (Tuple.cons value values)) ≠ _
      rcases converted : tupleAs Ts items with failure | values
      · exact fun same => defined (converted.trans (congrArg _ (Except.error.inj same)))
      · exact fun same => nomatch same

/-- On an array that is too short the first component is already taken from outside of it. -/
theorem tupleAs_of_short {Ts : List ArgType} {items : List Object}
    (short : items.length < Ts.length) : tupleAs Ts items = .error (.undefined .outOfBounds) := by
  cases Ts with
  | nil => exact absurd short (Nat.not_lt_zero _)
  | cons T Ts =>
    have outside : fromEnd items (Ts.length + 1) = .error (.undefined .outOfBounds) :=
      if_pos short
    rw [tupleAs, outside]
    rfl

theorem asTuple_eq_ok_iff {Ts : List ArgType} {object : Object} {values : Tuple Ts} :
    asTuple Ts object = .ok values ↔ ∃ items, object = .array items ∧ Converts Ts items values := by
  cases object with
  | array items =>
    have same : (∃ others, Object.array items = .array others ∧ Converts Ts others values) ↔
        Converts Ts items values := by
      constructor
      · rintro ⟨others, ⟨⟩, converted⟩
        exact converted
      · exact fun converted => ⟨items, rfl, converted⟩
    rw [same, asTuple, Converts]
    split
    · exact tupleAs_eq_ok_iff Ts items values
    · rw [mapError_eq_ok_iff]
      exact convertTuple_eq_ok_iff Ts 0 items values
  | _ =>
    refine iff_of_false (fun same => nomatch same) ?_
    rintro ⟨items, impossible, -⟩
    cases impossible

/-- Conversion to a tuple is only undefined by `as`, on an array that is too short. -/
theorem asTuple_undefined {Ts : List ArgType} {object : Object} {fault : Fault}
    (left : asTuple Ts object = .error (.undefined fault)) :
    hasAs Ts = true ∧ ∃ items, object = .array items ∧ items.length < Ts.length := by
  cases object with
  | array items =>
    rw [asTuple] at left
    split at left
    · next capable =>
      refine ⟨capable, items, rfl, Nat.not_le.mp fun enough => ?_⟩
      exact tupleAs_defined enough left
    · rcases converted : convertTuple Ts 0 items (Tuple.initial Ts) with thrown | values
      · rw [converted] at left
        cases left
      · rw [converted] at left
        cases left
  | _ => cases left

end RpcInstance.Msgpack
