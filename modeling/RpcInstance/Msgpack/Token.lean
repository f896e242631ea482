/-
This file models how a msgpack byte string is cut into tokens: an object that is
complete by itself, or the start of an array or a map with the number of its
entries. The table of first bytes is the one the parser dispatches on.
-/

import RpcInstance.Library.BigEndian
import RpcInstance.Library.Scanner
import RpcInstance.Outcome

namespace RpcInstance.Msgpack

open BigEndian Scanner

/-! ### Objects -/

/-- A `msgpack::object`. Floating point numbers are kept as their bits. -/
inductive Object where
  | nil
  | boolean (value : Bool)
  | positiveInteger (value : UInt64)
  | negativeInteger (value : ℤ)
  | float32 (bits : UInt32)
  | float64 (bits : UInt64)
  | str (bytes : List UInt8)
  | bin (bytes : List UInt8)
  /-- An extension object: the size of its data, and the type byte with the data behind it. -/
  | ext (size : UInt32) (bytes : List UInt8)
  | array (items : List Object)
  | map (entries : List (Object × Object))

/-- The objects that are a run of bytes. -/
inductive Raw where
  | str
  | bin
  | ext
  deriving DecidableEq, Repr

/-- The objects that are made of other objects. -/
inductive Container where
  | array
  | map
  deriving DecidableEq, Repr

/-- An integer of a signed format becomes a positive one when it can. -/
def visitNegativeInteger (value : ℤ) : Object :=
  if 0 ≤ value then .positiveInteger (UInt64.ofNat value.toNat) else .negativeInteger value

/-- The size is handed over as 32 bits, one more than the size of the data. -/
def visitExt (bytes : List UInt8) : Object :=
  let size := UInt32.ofNat bytes.length
  .ext (size - 1) (bytes.take size.toNat)

/-- The object that the visitor makes of the bytes. -/
def Raw.visit : Raw → List UInt8 → Object
  | .str => .str
  | .bin => .bin
  | .ext => visitExt

/-- How many bytes follow a size field. An extension has its type byte on top of the size. -/
def Raw.trail : Raw → ℕ → ℕ
  | .str, size => size
  | .bin, size => size
  | .ext, size => size + 1

/-! ### First bytes -/

/-- What the first byte of an object announces. -/
inductive Head where
  /-- The byte is the whole object. -/
  | whole (object : Object)
  /-- The object is in the next `width` bytes. -/
  | fixed (width : ℕ) (visit : List UInt8 → Object)
  /-- The next `width` bytes are the size of a body. -/
  | sized (kind : Raw) (width : ℕ)
  /-- An array or a map with `size` entries starts. -/
  | aggregate (kind : Container) (size : ℕ)
  /-- An array or a map starts, and the next `width` bytes are the number of its entries. -/
  | counted (kind : Container) (width : ℕ)
  /-- No object starts with this byte. -/
  | invalid

/-- An unsigned integer of any width. -/
def visitPositive (bytes : List UInt8) : Object :=
  .positiveInteger (UInt64.ofNat (ofBytes bytes))

/-- A signed integer of any width. -/
def visitNegative (bytes : List UInt8) : Object :=
  visitNegativeInteger (ofBytesSigned bytes)

/-- The first bytes `0xc4` to `0xdf`. -/
def trail : UInt8 → Head
  | 0xc4 => .sized .bin 1
  | 0xc5 => .sized .bin 2
  | 0xc6 => .sized .bin 4
  | 0xc7 => .sized .ext 1
  | 0xc8 => .sized .ext 2
  | 0xc9 => .sized .ext 4
  | 0xca => .fixed 4 fun bytes => .float32 (UInt32.ofNat (ofBytes bytes))
  | 0xcb => .fixed 8 fun bytes => .float64 (UInt64.ofNat (ofBytes bytes))
  | 0xcc => .fixed 1 visitPositive
  | 0xcd => .fixed 2 visitPositive
  | 0xce => .fixed 4 visitPositive
  | 0xcf => .fixed 8 visitPositive
  | 0xd0 => .fixed 1 visitNegative
  | 0xd1 => .fixed 2 visitNegative
  | 0xd2 => .fixed 4 visitNegative
  | 0xd3 => .fixed 8 visitNegative
  | 0xd4 => .fixed 2 visitExt
  | 0xd5 => .fixed 3 visitExt
  | 0xd6 => .fixed 5 visitExt
  | 0xd7 => .fixed 9 visitExt
  | 0xd8 => .fixed 17 visitExt
  | 0xd9 => .sized .str 1
  | 0xda => .sized .str 2
  | 0xdb => .sized .str 4
  | 0xdc => .counted .array 2
  | 0xdd => .counted .array 4
  | 0xde => .counted .map 2
  | 0xdf => .counted .map 4
  | _ => .invalid

/-- The table of first bytes. -/
def head (selector : UInt8) : Head :=
  if selector ≤ 0x7f then .whole (.positiveInteger selector.toUInt64)
  else if 0xe0 ≤ selector then .whole (visitNegative [selector])
  else if 0xc4 ≤ selector ∧ selector ≤ 0xdf then trail selector
  else if 0xa0 ≤ selector ∧ selector ≤ 0xbf then .fixed (selector &&& 0x1f).toNat .str
  else if 0x90 ≤ selector ∧ selector ≤ 0x9f then .aggregate .array (selector &&& 0x0f).toNat
  else if 0x80 ≤ selector ∧ selector ≤ 0x8f then .aggregate .map (selector &&& 0x0f).toNat
  else if selector = 0xc2 then .whole (.boolean false)
  else if selector = 0xc3 then .whole (.boolean true)
  else if selector = 0xc0 then .whole .nil
  else .invalid

/-! ### Tokens -/

/-- One turn of the parser's loop: a complete object, or a container of `size` entries. -/
inductive Token where
  | value (object : Object)
  | start (kind : Container) (size : ℕ)

/-- Thrown where no object starts. -/
def parseError : Thrown := .exception "parse error"

/-- Thrown where the data ends too early. -/
def insufficientBytes : Thrown := .exception "insufficient bytes"

/-- Reads what a first byte announces. -/
def Head.scan : Head → Scanner UInt8 Thrown Token
  | .whole object => give (.value object)
  | .fixed width visit =>
    andThen (take insufficientBytes width) fun bytes => give (.value (visit bytes))
  | .sized kind width =>
    andThen (take insufficientBytes width) fun size =>
      andThen (take insufficientBytes (kind.trail (ofBytes size))) fun body =>
        give (.value (kind.visit body))
  | .aggregate kind size => give (.start kind size)
  | .counted kind width =>
    andThen (take insufficientBytes width) fun size => give (.start kind (ofBytes size))
  | .invalid => fun _ => .error parseError

/-- The first token of the data. -/
def token : Scanner UInt8 Thrown Token
  | [] => .error insufficientBytes
  | selector :: rest => (head selector).scan rest

/-- The bytes that may follow a first byte, and the token they make with it. -/
inductive Head.Announces : Head → Token → List UInt8 → Prop
  | whole (object : Object) : Announces (.whole object) (.value object) []
  | fixed (visit : List UInt8 → Object) (bytes : List UInt8) :
      Announces (.fixed bytes.length visit) (.value (visit bytes)) bytes
  | sized (kind : Raw) (size body : List UInt8) (fills : body.length = kind.trail (ofBytes size)) :
      Announces (.sized kind size.length) (.value (kind.visit body)) (size ++ body)
  | aggregate (kind : Container) (size : ℕ) : Announces (.aggregate kind size) (.start kind size) []
  | counted (kind : Container) (size : List UInt8) :
      Announces (.counted kind size.length) (.start kind (ofBytes size)) size

/-- The byte strings of a token. -/
inductive Token.Spells : Token → List UInt8 → Prop
  | mk (selector : UInt8) {token : Token} {bytes : List UInt8}
      (announced : (head selector).Announces token bytes) : Spells token (selector :: bytes)

theorem Head.reads_scan (first : Head) : Reads first.scan first.Announces := by
  intro input result rest
  cases first with
  | whole object =>
    refine (reads_give _ input result rest).trans (exists_congr fun front => and_congr_right' ?_)
    constructor
    · rintro ⟨rfl, rfl⟩
      exact .whole object
    · rintro ⟨⟩
      exact ⟨rfl, rfl⟩
  | fixed width visit =>
    refine (reads_andThen (reads_take _ width) (fun bytes => reads_give _) input result rest).trans
      (exists_congr fun front => and_congr_right' ?_)
    constructor
    · rintro ⟨bytes, -, -, rfl, ⟨rfl, rfl⟩, rfl, rfl⟩
      rw [List.append_nil]
      exact .fixed visit _
    · rintro ⟨⟩
      exact ⟨_, _, _, (List.append_nil _).symm, ⟨rfl, rfl⟩, rfl, rfl⟩
  | sized kind width =>
    refine (reads_andThen (reads_take _ width) (fun size =>
      reads_andThen (reads_take _ (kind.trail (ofBytes size))) fun body => reads_give _)
        input result rest).trans (exists_congr fun front => and_congr_right' ?_)
    constructor
    · rintro ⟨size, _, _, rfl, ⟨rfl, rfl⟩, body, _, _, rfl, ⟨rfl, fills⟩, rfl, rfl⟩
      rw [List.append_nil]
      exact .sized kind _ _ fills
    · rintro ⟨⟩
      next size body fills =>
      exact ⟨size, _, _, rfl, ⟨rfl, rfl⟩, body, _, _, (List.append_nil _).symm, ⟨rfl, fills⟩, rfl,
        rfl⟩
  | aggregate kind size =>
    refine (reads_give _ input result rest).trans (exists_congr fun front => and_congr_right' ?_)
    constructor
    · rintro ⟨rfl, rfl⟩
      exact .aggregate kind size
    · rintro ⟨⟩
      exact ⟨rfl, rfl⟩
  | counted kind width =>
    refine (reads_andThen (reads_take _ width) (fun bytes => reads_give _) input result rest).trans
      (exists_congr fun front => and_congr_right' ?_)
    constructor
    · rintro ⟨size, -, -, rfl, ⟨rfl, rfl⟩, rfl, rfl⟩
      rw [List.append_nil]
      exact .counted kind _
    · rintro ⟨⟩
      exact ⟨_, _, _, (List.append_nil _).symm, ⟨rfl, rfl⟩, rfl, rfl⟩
  | invalid =>
    refine (reads_fail parseError input result rest).trans
      (exists_congr fun front => and_congr_right' (iff_of_false id ?_))
    rintro ⟨⟩

/-- A token is read exactly off the inputs that start with one. -/
theorem reads_token : Reads token Token.Spells := by
  intro input result rest
  cases input with
  | nil =>
    constructor
    · intro accepted
      cases accepted
    · rintro ⟨front, empty, ⟨selector, announced⟩⟩
      cases empty
  | cons selector input =>
    refine ((head selector).reads_scan input result rest).trans ?_
    constructor
    · rintro ⟨front, rfl, announced⟩
      exact ⟨selector :: front, rfl, .mk selector announced⟩
    · rintro ⟨front, same, ⟨first, announced⟩⟩
      obtain ⟨rfl, rfl⟩ := List.cons.inj same
      exact ⟨_, rfl, announced⟩

end RpcInstance.Msgpack
