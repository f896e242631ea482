/-
This file models the adaptors of the types that are built from other argument
types: vectors, pairs, optional values, nested tuples and maps.

A vector and an optional value have an `as` adaptor where their elements have one,
a pair and a map where one of the two does. The others are converted in place: a
vector is resized and its elements are converted where they are, so that what an
element was before is still there for its conversion.
-/

import Std.Data.ExtTreeMap.Lemmas
import RpcInstance.Msgpack.Forms

namespace RpcInstance.Msgpack

/-! ### Binary data -/

/-- The adaptor of `std::vector<char>` and that of `std::vector<unsigned char>`, which is the vector
of `uint8_t`. Strings convert to them as well. -/
def vectorChar : ArgType where
  Value := List UInt8
  pack value := do
    let size ← checkedGetContainerSize value.length
    return packBin size ++ value
  initial := []
  convert object _ :=
    match object with
    | .bin bytes => .ok bytes
    | .str bytes => .ok bytes
    | _ => .error typeError
  as := none

/-! ### Vectors -/

/-- `std::vector::resize`: elements that are there stay, and the others are fresh. -/
def resize {Value : Type} (fresh : Value) (size : ℕ) (slots : List Value) : List Value :=
  slots.take size ++ List.replicate (size - slots.length) fresh

/-- Converts every element into the slot at its place. -/
def convertItems (T : ArgType) : List Object → List T.Value → Except Thrown (List T.Value)
  | item :: items, slot :: slots => do
    let value ← T.convert item slot
    let values ← convertItems T items slots
    return value :: values
  | _, slots => .ok slots

/-- The vector is resized to the array first, and its elements are converted where they are. -/
def convertVector (T : ArgType) : Object → List T.Value → Except Thrown (List T.Value)
  | .array items, slots => convertItems T items (resize T.initial items.length slots)
  | _, _ => .error typeError

/-- The elements come from their own `as` adaptor. -/
def asVector {Value : Type} (as : Object → Except Thrown Value) :
    Object → Except Thrown (List Value)
  | .array items => items.mapM as
  | _ => .error typeError

/-- The adaptor of `std::vector<T>`, for element types whose vectors have no adaptors of their own.
The elements are packed like the arguments of a call. -/
def vector (T : ArgType) (_ : T.ownVector = false) : ArgType where
  Value := List T.Value
  pack values := packArgs (values.map T.pack)
  initial := []
  convert := convertVector T
  as := T.as.map asVector

/-! ### Pairs -/

/-- An array of the two components. -/
def packPair (S T : ArgType) (value : S.Value × T.Value) : Packed := do
  let first ← S.pack value.1
  let second ← T.pack value.2
  return packArray 2 ++ (first ++ second)

/-- An array of two elements, converted into the components that are there. -/
def convertPair (S T : ArgType) :
    Object → S.Value × T.Value → Except Thrown (S.Value × T.Value)
  | .array [first, second], slot => do
    let first ← S.convert first slot.1
    let second ← T.convert second slot.2
    return (first, second)
  | _, _ => .error typeError

/-- The components by `object::as`. -/
def asPair (S T : ArgType) : Object → Except Thrown (S.Value × T.Value)
  | .array [first, second] => do
    let first ← S.objectAs first
    let second ← T.objectAs second
    return (first, second)
  | _ => .error typeError

/-- The adaptor of `std::pair`. -/
def pair (S T : ArgType) : ArgType where
  Value := S.Value × T.Value
  pack := packPair S T
  initial := (S.initial, T.initial)
  convert := convertPair S T
  as := if S.as.isSome || T.as.isSome then some (asPair S T) else none

/-! ### Optional values -/

/-- `nil` for no value. -/
def packOptional (T : ArgType) : Option T.Value → Packed
  | some value => T.pack value
  | none => .ok [0xc0]

/-- `nil` is no value, and any other object is converted into a fresh value. -/
def convertOptional (T : ArgType) : Object → Except Thrown (Option T.Value)
  | .nil => .ok none
  | object => (T.convert object T.initial).map some

/-- `nil` is no value, and any other object goes to the `as` adaptor. -/
def asOptional {Value : Type} (as : Object → Except Thrown Value) :
    Object → Except Thrown (Option Value)
  | .nil => .ok none
  | object => (as object).map some

/-- The adaptor of `std::optional`. -/
def optional (T : ArgType) : ArgType where
  Value := Option T.Value
  pack := packOptional T
  initial := none
  convert object _ := convertOptional T object
  as := T.as.map asOptional

/-! ### Tuples -/

/-- Converts element by element, into the components that are there. -/
def convertNested (Ts : List ArgType) : Object → Tuple Ts → Except Thrown (Tuple Ts)
  | .array items, slots => convertTuple Ts 0 items slots
  | _, _ => .error typeError

/-- The adaptor of `std::tuple` as an argument, for component types that have no `as` adaptor. -/
def tuple (Ts : List ArgType) (_ : hasAs Ts = false) : ArgType where
  Value := Tuple Ts
  pack values := packArgs (Tuple.packed Ts values)
  initial := Tuple.initial Ts
  convert := convertNested Ts
  as := none

/-! ### Maps -/

section

variable (K V : ArgType) [Ord K.Value] [Std.TransOrd K.Value]

/-- The values of `std::map`. -/
abbrev Map (K V : ArgType) [Ord K.Value] :=
  Std.ExtTreeMap K.Value V.Value

/-- Every key and the value behind it in order. -/
def packEntries : List (K.Value × V.Value) → Packed
  | [] => .ok []
  | (key, value) :: entries => do
    let first ← K.pack key
    let second ← V.pack value
    let back ← packEntries entries
    return first ++ (second ++ back)

/-- Converts every entry into the value that the map has under its key, a fresh one if it has
none. -/
def convertEntries : List (Object × Object) → Map K V → Except Thrown (Map K V)
  | [], tmp => .ok tmp
  | (key, value) :: entries, tmp => do
    let key ← K.convert key K.initial
    let value ← V.convert value (tmp.getD key V.initial)
    convertEntries entries (tmp.insert key value)

/-- An entry whose key is there already is dropped. -/
def emplaceEntries : List (Object × Object) → Map K V → Except Thrown (Map K V)
  | [], v => .ok v
  | (key, value) :: entries, v => do
    let key ← K.objectAs key
    let value ← V.objectAs value
    emplaceEntries entries (v.insertIfNew key value)

/-- The number of entries, and the entries in the order of their keys. -/
def packMapOf (value : Map K V) : Packed := do
  let size ← checkedGetContainerSize value.size
  let body ← packEntries K V value.toList
  return packMap size ++ body

/-- Every entry is put into a map that starts empty. -/
def convertMap : Object → Except Thrown (Map K V)
  | .map entries => convertEntries K V entries ∅
  | _ => .error typeError

/-- Every entry whose key is new is put into a map that starts empty. -/
def asMap : Object → Except Thrown (Map K V)
  | .map entries => emplaceEntries K V entries ∅
  | _ => .error typeError

/-- The adaptor of `std::map`. -/
def map : ArgType where
  Value := Map K V
  pack := packMapOf K V
  initial := ∅
  convert object _ := convertMap K V object
  as := if K.as.isSome || V.as.isSome then some (asMap K V) else none

end

end RpcInstance.Msgpack
