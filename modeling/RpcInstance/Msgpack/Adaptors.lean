/-
This file models the adaptors of the argument types that are not built from others:
the integer types, `bool` and `std::string`.

Each integer type has a packing function of its own, with a ladder of formats, and
all are converted by one function that checks the range of the type.
-/

import RpcInstance.Msgpack.Tuple

namespace RpcInstance.Msgpack

open BigEndian

/-! ### Integer types -/

/-- The integer types. A `char` is packed and converted like an `int8_t`, and a `long` is an
`int64_t`. -/
inductive IntType where
  | int8
  | int16
  | int32
  | int64
  | uint8
  | uint16
  | uint32
  | uint64
  deriving DecidableEq, Repr

namespace IntType

/-- `std::is_signed<T>`. -/
def signed : IntType → Bool
  | .int8 | .int16 | .int32 | .int64 => true
  | .uint8 | .uint16 | .uint32 | .uint64 => false

/-- The size in bytes. -/
def width : IntType → ℕ
  | .int8 | .uint8 => 1
  | .int16 | .uint16 => 2
  | .int32 | .uint32 => 4
  | .int64 | .uint64 => 8

/-- The values of a type, as their bits. -/
abbrev Value (T : IntType) := BitVec (8 * T.width)

/-- The integer that a value stands for. -/
def toInt (T : IntType) (value : T.Value) : ℤ :=
  if T.signed then value.toInt else value.toNat

/-- `std::numeric_limits<T>::min()`. -/
def min (T : IntType) : ℤ :=
  if T.signed then -2 ^ (8 * T.width - 1) else 0

/-- `std::numeric_limits<T>::max()`. -/
def max (T : IntType) : ℤ :=
  if T.signed then 2 ^ (8 * T.width - 1) - 1 else 2 ^ (8 * T.width) - 1

/-- `static_cast<T>`. -/
def cast (T : IntType) (value : ℤ) : T.Value :=
  BitVec.ofInt _ value

end IntType

/-! ### Packing integers -/

/-- `pack_imp_uint8`. -/
def packImpUint8 (d : ℤ) : List UInt8 :=
  if d < 2 ^ 7 then ofInt 1 d
  else 0xcc :: ofInt 1 d

/-- `pack_imp_uint16`. -/
def packImpUint16 (d : ℤ) : List UInt8 :=
  if d < 2 ^ 7 then ofInt 1 d
  else if d < 2 ^ 8 then 0xcc :: ofInt 1 d
  else 0xcd :: ofInt 2 d

/-- `pack_imp_uint32`. -/
def packImpUint32 (d : ℤ) : List UInt8 :=
  if d < 2 ^ 8 then
    if d < 2 ^ 7 then ofInt 1 d
    else 0xcc :: ofInt 1 d
  else if d < 2 ^ 16 then 0xcd :: ofInt 2 d
  else 0xce :: ofInt 4 d

/-- `pack_imp_uint64`. -/
def packImpUint64 (d : ℤ) : List UInt8 :=
  if d < 2 ^ 8 then
    if d < 2 ^ 7 then ofInt 1 d
    else 0xcc :: ofInt 1 d
  else if d < 2 ^ 16 then 0xcd :: ofInt 2 d
  else if d < 2 ^ 32 then 0xce :: ofInt 4 d
  else 0xcf :: ofInt 8 d

/-- `pack_imp_int8`. -/
def packImpInt8 (d : ℤ) : List UInt8 :=
  if d < -2 ^ 5 then 0xd0 :: ofInt 1 d
  else ofInt 1 d

/-- `pack_imp_int16`. -/
def packImpInt16 (d : ℤ) : List UInt8 :=
  if d < -2 ^ 5 then
    if d < -2 ^ 7 then 0xd1 :: ofInt 2 d
    else 0xd0 :: ofInt 1 d
  else if d < 2 ^ 7 then ofInt 1 d
  else if d < 2 ^ 8 then 0xcc :: ofInt 1 d
  else 0xcd :: ofInt 2 d

/-- `pack_imp_int32`. -/
def packImpInt32 (d : ℤ) : List UInt8 :=
  if d < -2 ^ 5 then
    if d < -2 ^ 15 then 0xd2 :: ofInt 4 d
    else if d < -2 ^ 7 then 0xd1 :: ofInt 2 d
    else 0xd0 :: ofInt 1 d
  else if d < 2 ^ 7 then ofInt 1 d
  else if d < 2 ^ 8 then 0xcc :: ofInt 1 d
  else if d < 2 ^ 16 then 0xcd :: ofInt 2 d
  else 0xce :: ofInt 4 d

/-- `pack_imp_int64`. -/
def packImpInt64 (d : ℤ) : List UInt8 :=
  if d < -2 ^ 5 then
    if d < -2 ^ 15 then
      if d < -2 ^ 31 then 0xd3 :: ofInt 8 d
      else 0xd2 :: ofInt 4 d
    else if d < -2 ^ 7 then 0xd1 :: ofInt 2 d
    else 0xd0 :: ofInt 1 d
  else if d < 2 ^ 7 then ofInt 1 d
  else if d < 2 ^ 16 then
    if d < 2 ^ 8 then 0xcc :: ofInt 1 d
    else 0xcd :: ofInt 2 d
  else if d < 2 ^ 32 then 0xce :: ofInt 4 d
  else 0xcf :: ofInt 8 d

/-- The packing function of each type. -/
def IntType.pack : (T : IntType) → T.Value → List UInt8
  | .int8, value => packImpInt8 (toInt .int8 value)
  | .int16, value => packImpInt16 (toInt .int16 value)
  | .int32, value => packImpInt32 (toInt .int32 value)
  | .int64, value => packImpInt64 (toInt .int64 value)
  | .uint8, value => packImpUint8 (toInt .uint8 value)
  | .uint16, value => packImpUint16 (toInt .uint16 value)
  | .uint32, value => packImpUint32 (toInt .uint32 value)
  | .uint64, value => packImpUint64 (toInt .uint64 value)

/-! ### Converting integers -/

/-- `convert_integer`. -/
def convertInteger (T : IntType) : Object → Except Thrown T.Value
  | .positiveInteger value =>
    if T.max < value.toNat then .error typeError else .ok (T.cast value.toNat)
  | .negativeInteger value =>
    if T.signed then
      if value < T.min then .error typeError else .ok (T.cast value)
    else .error typeError
  | _ => .error typeError

/-- The adaptor of an integer type. A vector of `uint8_t` is not packed as an array. -/
def IntType.argType (T : IntType) : ArgType where
  Value := T.Value
  pack value := .ok (T.pack value)
  initial := 0
  convert object _ := convertInteger T object
  as := none
  ownVector := T = .uint8

/-- An `int` has 32 bits. -/
abbrev int : ArgType := IntType.int32.argType

/-! ### Booleans -/

/-- `convert` of `bool`. -/
def convertBool : Object → Except Thrown Bool
  | .boolean value => .ok value
  | _ => .error typeError

/-- The adaptor of `bool`. A vector of `bool` has an adaptor of its own. -/
def bool : ArgType where
  Value := Bool
  pack value := .ok [if value then 0xc3 else 0xc2]
  initial := false
  convert object _ := convertBool object
  as := none
  ownVector := true

/-! ### Strings -/

/-- `pack` of `std::string`. -/
def packString (value : List UInt8) : Packed := do
  let size ← checkedGetContainerSize value.length
  return packStr size ++ value

/-- Binary objects convert to strings as well. -/
def convertString : Object → Except Thrown (List UInt8)
  | .bin bytes => .ok bytes
  | .str bytes => .ok bytes
  | _ => .error typeError

/-- The adaptor of `std::string`. -/
def string : ArgType where
  Value := List UInt8
  pack := packString
  initial := []
  convert object _ := convertString object
  as := none

/-- A string of three-byte header size is packed behind that header. -/
theorem packString_eq {value : List UInt8} (large : 256 ≤ value.length)
    (small : value.length < 65536) :
    packString value = .ok (0xda :: (toBytes 2 value.length ++ value)) := by
  have checked : checkedGetContainerSize value.length = .ok value.length := by
    rw [checkedGetContainerSize, if_neg (by omega)]
  have header : packStr value.length = 0xda :: toBytes 2 value.length := by
    rw [packStr, if_neg (by omega), if_neg (by omega), if_pos small]
  rw [packString, checked]
  show Except.ok (packStr value.length ++ value) = _
  rw [header]
  rfl

end RpcInstance.Msgpack
