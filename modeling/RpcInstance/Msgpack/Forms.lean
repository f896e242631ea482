/-
This file is about the byte strings of single objects: the forms that the packer
writes, and what any other form of the same object has to look like.

The format leaves a choice, a size or an integer may be stored wider than it has
to be. The packer chooses the narrowest field everywhere, so no byte string of an
object is shorter than the one it writes.
-/

import Mathlib.Tactic.SplitIfs
import RpcInstance.Msgpack.Tuple

namespace RpcInstance.Msgpack

open BigEndian

/-! ### What a first byte announces -/

theorem announces_value_iff {first : Head} {object : Object} {bytes : List UInt8} :
    first.Announces (.value object) bytes ↔
      match first with
      | .whole other => other = object ∧ bytes = []
      | .fixed width visit => bytes.length = width ∧ visit bytes = object
      | .sized kind width => ∃ size body, bytes = size ++ body ∧ size.length = width ∧
          body.length = kind.trail (ofBytes size) ∧ kind.visit body = object
      | _ => False := by
  constructor
  · rintro ⟨⟩
    · exact ⟨rfl, rfl⟩
    · exact ⟨rfl, rfl⟩
    · next kind size body fills => exact ⟨size, body, rfl, rfl, fills, rfl⟩
  · cases first with
    | whole other =>
      rintro ⟨rfl, rfl⟩
      exact .whole other
    | fixed width visit =>
      rintro ⟨rfl, rfl⟩
      exact .fixed visit bytes
    | sized kind width =>
      rintro ⟨size, body, rfl, rfl, fills, rfl⟩
      exact .sized kind size body fills
    | aggregate kind size => exact False.elim
    | counted kind width => exact False.elim
    | invalid => exact False.elim

theorem announces_start_iff {first : Head} {kind : Container} {size : ℕ} {bytes : List UInt8} :
    first.Announces (.start kind size) bytes ↔
      match first with
      | .aggregate other count => other = kind ∧ count = size ∧ bytes = []
      | .counted other width => other = kind ∧ bytes.length = width ∧ ofBytes bytes = size
      | _ => False := by
  constructor
  · rintro ⟨⟩
    · exact ⟨rfl, rfl, rfl⟩
    · exact ⟨rfl, rfl, rfl⟩
  · cases first with
    | aggregate other count =>
      rintro ⟨rfl, rfl, rfl⟩
      exact .aggregate other count
    | counted other width =>
      rintro ⟨rfl, rfl, rfl⟩
      exact .counted other bytes
    | whole object => exact False.elim
    | fixed width visit => exact False.elim
    | sized kind width => exact False.elim
    | invalid => exact False.elim

theorem spells_iff {token : Token} {bytes : List UInt8} :
    token.Spells bytes ↔ ∃ selector rest, bytes = selector :: rest ∧
      (head selector).Announces token rest := by
  constructor
  · rintro ⟨selector, announced⟩
    exact ⟨selector, _, rfl, announced⟩
  · rintro ⟨selector, rest, rfl, announced⟩
    exact .mk selector announced

/-- Every token has a first byte. -/
theorem Token.Spells.length_pos {token : Token} {bytes : List UInt8}
    (spelled : token.Spells bytes) : 0 < bytes.length := by
  obtain ⟨selector, rest, rfl, -⟩ := spells_iff.mp spelled
  exact Nat.succ_pos _

section

variable {selector : UInt8} {bytes : List UInt8}

theorem spells_whole {object : Object} (known : head selector = .whole object) :
    (Token.value object).Spells [selector] :=
  .mk selector (known ▸ .whole object)

theorem spells_fixed {width : ℕ} {visit : List UInt8 → Object}
    (known : head selector = .fixed width visit) (length : bytes.length = width) :
    (Token.value (visit bytes)).Spells (selector :: bytes) :=
  .mk selector (known ▸ announces_value_iff.mpr ⟨length, rfl⟩)

theorem spells_sized {kind : Raw} {width size : ℕ} (known : head selector = .sized kind width)
    (fits : size < 256 ^ width) (fills : bytes.length = kind.trail size) :
    (Token.value (kind.visit bytes)).Spells (selector :: (toBytes width size ++ bytes)) := by
  refine .mk selector (known ▸ announces_value_iff.mpr ⟨_, bytes, rfl, toBytes_length _ _, ?_, rfl⟩)
  rw [ofBytes_toBytes_of_lt fits]
  exact fills

theorem spells_aggregate {kind : Container} {size : ℕ}
    (known : head selector = .aggregate kind size) : (Token.start kind size).Spells [selector] :=
  .mk selector (known ▸ .aggregate kind size)

theorem spells_counted {kind : Container} {width size : ℕ}
    (known : head selector = .counted kind width) (fits : size < 256 ^ width) :
    (Token.start kind size).Spells (selector :: toBytes width size) :=
  .mk selector (known ▸ announces_start_iff.mpr
    ⟨rfl, toBytes_length _ _, ofBytes_toBytes_of_lt fits⟩)

end

/-! ### The table of first bytes -/

/-- The entries of the table. -/
inductive Entry : Head → Prop
  | positive (selector : UInt8) (small : selector ≤ 0x7f) :
      Entry (.whole (.positiveInteger selector.toUInt64))
  | negative (selector : UInt8) (large : 0xe0 ≤ selector) :
      Entry (.whole (visitNegative [selector]))
  | nil : Entry (.whole .nil)
  | boolean (value : Bool) : Entry (.whole (.boolean value))
  | string (size : ℕ) (small : size < 32) : Entry (.fixed size .str)
  | container (kind : Container) (size : ℕ) (small : size < 16) : Entry (.aggregate kind size)
  | float32 : Entry (.fixed 4 fun bytes => .float32 (UInt32.ofNat (ofBytes bytes)))
  | float64 : Entry (.fixed 8 fun bytes => .float64 (UInt64.ofNat (ofBytes bytes)))
  | unsigned (width : ℕ) (known : width ∈ [1, 2, 4, 8]) : Entry (.fixed width visitPositive)
  | signed (width : ℕ) (known : width ∈ [1, 2, 4, 8]) : Entry (.fixed width visitNegative)
  | extension (width : ℕ) : Entry (.fixed width visitExt)
  | sized (kind : Raw) (width : ℕ) (known : width ∈ [1, 2, 4]) : Entry (.sized kind width)
  | counted (kind : Container) (width : ℕ) (known : width ∈ [2, 4]) : Entry (.counted kind width)
  | invalid : Entry .invalid

theorem trail_entry (selector : UInt8) : Entry (trail selector) := by
  unfold trail
  split
  case h_1 | h_2 | h_3 => exact .sized .bin _ (by decide)
  case h_4 | h_5 | h_6 => exact .sized .ext _ (by decide)
  case h_7 => exact .float32
  case h_8 => exact .float64
  case h_9 | h_10 | h_11 | h_12 => exact .unsigned _ (by decide)
  case h_13 | h_14 | h_15 | h_16 => exact .signed _ (by decide)
  case h_17 | h_18 | h_19 | h_20 | h_21 => exact .extension _
  case h_22 | h_23 | h_24 => exact .sized .str _ (by decide)
  case h_25 | h_26 => exact .counted .array _ (by decide)
  case h_27 | h_28 => exact .counted .map _ (by decide)
  case h_29 => exact .invalid

theorem and_lt {selector mask : UInt8} {bound : ℕ} (known : mask.toNat + 1 = bound) :
    (selector &&& mask).toNat < bound := by
  rw [UInt8.toNat_and, ← known]
  exact Nat.lt_succ_of_le Nat.and_le_right

theorem head_entry (selector : UInt8) : Entry (head selector) := by
  unfold head
  split_ifs with positive negative trailing string array map no yes nil
  · exact .positive selector positive
  · exact .negative selector negative
  · exact trail_entry selector
  · exact .string _ (and_lt rfl)
  · exact .container .array _ (and_lt rfl)
  · exact .container .map _ (and_lt rfl)
  · exact .boolean false
  · exact .boolean true
  · exact .nil
  · exact .invalid

/-! ### First bytes with a size in them -/

theorem head_fixstr {size : ℕ} (small : size < 32) :
    head (0xa0 ||| UInt8.ofNat size) = .fixed size .str := by
  have facts : ∀ size < 32, ¬ (0xa0 ||| UInt8.ofNat size) ≤ 0x7f ∧
      ¬ 0xe0 ≤ (0xa0 ||| UInt8.ofNat size) ∧
      ¬ (0xc4 ≤ (0xa0 ||| UInt8.ofNat size) ∧ (0xa0 ||| UInt8.ofNat size) ≤ 0xdf) ∧
      (0xa0 ≤ (0xa0 ||| UInt8.ofNat size) ∧ (0xa0 ||| UInt8.ofNat size) ≤ 0xbf) ∧
      ((0xa0 ||| UInt8.ofNat size) &&& 0x1f).toNat = size := by decide
  obtain ⟨positive, negative, trailing, string, low⟩ := facts size small
  rw [head, if_neg positive, if_neg negative, if_neg trailing, if_pos string, low]

theorem head_fixarray {size : ℕ} (small : size < 16) :
    head (0x90 ||| UInt8.ofNat size) = .aggregate .array size := by
  have facts : ∀ size < 16, ¬ (0x90 ||| UInt8.ofNat size) ≤ 0x7f ∧
      ¬ 0xe0 ≤ (0x90 ||| UInt8.ofNat size) ∧
      ¬ (0xc4 ≤ (0x90 ||| UInt8.ofNat size) ∧ (0x90 ||| UInt8.ofNat size) ≤ 0xdf) ∧
      ¬ (0xa0 ≤ (0x90 ||| UInt8.ofNat size) ∧ (0x90 ||| UInt8.ofNat size) ≤ 0xbf) ∧
      (0x90 ≤ (0x90 ||| UInt8.ofNat size) ∧ (0x90 ||| UInt8.ofNat size) ≤ 0x9f) ∧
      ((0x90 ||| UInt8.ofNat size) &&& 0x0f).toNat = size := by decide
  obtain ⟨positive, negative, trailing, string, array, low⟩ := facts size small
  rw [head, if_neg positive, if_neg negative, if_neg trailing, if_neg string, if_pos array, low]

theorem head_fixmap {size : ℕ} (small : size < 16) :
    head (0x80 ||| UInt8.ofNat size) = .aggregate .map size := by
  have facts : ∀ size < 16, ¬ (0x80 ||| UInt8.ofNat size) ≤ 0x7f ∧
      ¬ 0xe0 ≤ (0x80 ||| UInt8.ofNat size) ∧
      ¬ (0xc4 ≤ (0x80 ||| UInt8.ofNat size) ∧ (0x80 ||| UInt8.ofNat size) ≤ 0xdf) ∧
      ¬ (0xa0 ≤ (0x80 ||| UInt8.ofNat size) ∧ (0x80 ||| UInt8.ofNat size) ≤ 0xbf) ∧
      ¬ (0x90 ≤ (0x80 ||| UInt8.ofNat size) ∧ (0x80 ||| UInt8.ofNat size) ≤ 0x9f) ∧
      (0x80 ≤ (0x80 ||| UInt8.ofNat size) ∧ (0x80 ||| UInt8.ofNat size) ≤ 0x8f) ∧
      ((0x80 ||| UInt8.ofNat size) &&& 0x0f).toNat = size := by decide
  obtain ⟨positive, negative, trailing, string, array, map, low⟩ := facts size small
  rw [head, if_neg positive, if_neg negative, if_neg trailing, if_neg string, if_neg array,
    if_pos map, low]

/-! ### Strings and binaries -/

/-- `pack_bin`. -/
def packBin (size : ℕ) : List UInt8 :=
  if size < 256 then 0xc4 :: toBytes 1 size
  else if size < 65536 then 0xc5 :: toBytes 2 size
  else 0xc6 :: toBytes 4 size

/-- `pack_map`. -/
def packMap (size : ℕ) : List UInt8 :=
  if size < 16 then [0x80 ||| UInt8.ofNat size]
  else if size < 65536 then 0xde :: toBytes 2 size
  else 0xdf :: toBytes 4 size

theorem packStr_spells {bytes : List UInt8} (small : bytes.length < 2 ^ 32) :
    (Token.value (.str bytes)).Spells (packStr bytes.length ++ bytes) := by
  unfold packStr
  split_ifs with tiny short medium
  · exact spells_fixed (head_fixstr tiny) rfl
  · exact @spells_sized 0xd9 bytes .str 1 _ rfl (by omega) rfl
  · exact @spells_sized 0xda bytes .str 2 _ rfl (by omega) rfl
  · exact @spells_sized 0xdb bytes .str 4 _ rfl (by omega) rfl

theorem packBin_spells {bytes : List UInt8} (small : bytes.length < 2 ^ 32) :
    (Token.value (.bin bytes)).Spells (packBin bytes.length ++ bytes) := by
  unfold packBin
  split_ifs with short medium
  · exact @spells_sized 0xc4 bytes .bin 1 _ rfl (by omega) rfl
  · exact @spells_sized 0xc5 bytes .bin 2 _ rfl (by omega) rfl
  · exact @spells_sized 0xc6 bytes .bin 4 _ rfl (by omega) rfl

theorem packArray_spells {size : ℕ} (small : size < 2 ^ 32) :
    (Token.start .array size).Spells (packArray size) := by
  unfold packArray
  split_ifs with tiny medium
  · exact spells_aggregate (head_fixarray tiny)
  · exact @spells_counted 0xdc .array 2 _ rfl (by omega)
  · exact @spells_counted 0xdd .array 4 _ rfl (by omega)

theorem packMap_spells {size : ℕ} (small : size < 2 ^ 32) :
    (Token.start .map size).Spells (packMap size) := by
  unfold packMap
  split_ifs with tiny medium
  · exact spells_aggregate (head_fixmap tiny)
  · exact @spells_counted 0xde .map 2 _ rfl (by omega)
  · exact @spells_counted 0xdf .map 4 _ rfl (by omega)

/-! ### No shorter forms -/

/-- The widths of a header that can hold a size: the first byte alone, for sizes below some bound,
or one of the size fields behind it. -/
def Holds (inside : ℕ) (widths : List ℕ) (size : ℕ) (header : ℕ) : Prop :=
  (header = 1 ∧ size < inside) ∨ ∃ width ∈ widths, header = 1 + width ∧ size < 256 ^ width

theorem visitNegativeInteger_cases (value : ℤ) :
    (∃ positive, visitNegativeInteger value = .positiveInteger positive) ∨
      ∃ negative, visitNegativeInteger value = .negativeInteger negative := by
  unfold visitNegativeInteger
  split
  · exact Or.inl ⟨_, rfl⟩
  · exact Or.inr ⟨_, rfl⟩

theorem visitNegative_cases (bytes : List UInt8) :
    (∃ positive, visitNegative bytes = .positiveInteger positive) ∨
      ∃ negative, visitNegative bytes = .negativeInteger negative :=
  visitNegativeInteger_cases _

/-- Every form of a string or a binary is a header that holds the size, and the bytes. -/
theorem spells_raw {kind : Raw} {content bytes : List UInt8} (known : kind ≠ .ext)
    (spelled : (Token.value (kind.visit content)).Spells bytes) :
    ∃ header, bytes = header ++ content ∧
      Holds (if kind = .str then 32 else 0) [1, 2, 4] content.length header.length := by
  obtain ⟨selector, rest, rfl, announced⟩ := spells_iff.mp spelled
  rw [announces_value_iff] at announced
  have entry := head_entry selector
  generalize head selector = first at announced entry
  cases entry with
  | string size small =>
    obtain ⟨rfl, same⟩ := announced
    cases kind with
    | str =>
      obtain rfl := Object.str.inj same
      exact ⟨[selector], rfl, Or.inl ⟨rfl, small⟩⟩
    | bin => cases same
    | ext => exact absurd rfl known
  | sized other width member =>
    obtain ⟨size, body, rfl, rfl, fills, same⟩ := announced
    have room := ofBytes_lt size
    cases kind <;> cases other <;> first | cases same | skip
    · exact ⟨selector :: size, rfl, Or.inr ⟨_, member, Nat.add_comm _ _, fills ▸ room⟩⟩
    · exact ⟨selector :: size, rfl, Or.inr ⟨_, member, Nat.add_comm _ _, fills ▸ room⟩⟩
    · exact absurd rfl known
  | signed width member =>
    obtain ⟨value, same⟩ | ⟨value, same⟩ := visitNegative_cases rest <;>
      cases kind <;> first | exact absurd rfl known | cases same.symm.trans announced.2
  | negative selector large =>
    obtain ⟨value, same⟩ | ⟨value, same⟩ := visitNegative_cases [selector] <;>
      cases kind <;> first | exact absurd rfl known | cases same.symm.trans announced.1
  | positive | nil | boolean =>
    cases kind <;> first | exact absurd rfl known | cases announced.1
  | float32 | float64 | unsigned | extension =>
    cases kind <;> first | exact absurd rfl known | cases announced.2
  | container | counted | invalid => exact announced.elim

/-- Every form of the start of an array or a map is a header that holds the size. -/
theorem spells_start {kind : Container} {size : ℕ} {bytes : List UInt8}
    (spelled : (Token.start kind size).Spells bytes) : Holds 16 [2, 4] size bytes.length := by
  obtain ⟨selector, rest, rfl, announced⟩ := spells_iff.mp spelled
  rw [announces_start_iff] at announced
  have entry := head_entry selector
  generalize head selector = first at announced entry
  cases entry with
  | container other count small =>
    obtain ⟨-, rfl, rfl⟩ := announced
    exact Or.inl ⟨rfl, small⟩
  | counted other width member =>
    obtain ⟨-, rfl, rfl⟩ := announced
    exact Or.inr ⟨_, member, Nat.add_comm _ _, ofBytes_lt rest⟩
  | _ => exact announced.elim

/-- The header of a string is the narrowest that holds the size. -/
theorem packStr_shortest {size header : ℕ} (holds : Holds 32 [1, 2, 4] size header) :
    (packStr size).length ≤ header := by
  unfold packStr
  grind [Holds, toBytes_length]

theorem packBin_shortest {size header : ℕ} (holds : Holds 0 [1, 2, 4] size header) :
    (packBin size).length ≤ header := by
  unfold packBin
  grind [Holds, toBytes_length]

theorem packArray_shortest {size header : ℕ} (holds : Holds 16 [2, 4] size header) :
    (packArray size).length ≤ header := by
  unfold packArray
  grind [Holds, toBytes_length]

theorem packMap_shortest {size header : ℕ} (holds : Holds 16 [2, 4] size header) :
    (packMap size).length ≤ header := by
  unfold packMap
  grind [Holds, toBytes_length]

/-! ### Objects in their shortest form -/

/-- The objects that are one token. -/
def Object.IsLeaf : Object → Prop
  | .array _ => False
  | .map _ => False
  | _ => True

theorem Token.Spells.isLeaf {object : Object} {bytes : List UInt8}
    (spelled : (Token.value object).Spells bytes) : object.IsLeaf := by
  obtain ⟨selector, rest, rfl, announced⟩ := spells_iff.mp spelled
  rw [announces_value_iff] at announced
  have entry := head_entry selector
  generalize head selector = first at announced entry
  cases entry with
  | sized kind width member =>
    obtain ⟨size, body, -, -, -, rfl⟩ := announced
    cases kind <;> trivial
  | signed width member =>
    obtain ⟨-, rfl⟩ := announced
    obtain ⟨value, same⟩ | ⟨value, same⟩ := visitNegative_cases rest <;> rw [same] <;> trivial
  | negative selector large =>
    obtain ⟨rfl, -⟩ := announced
    obtain ⟨value, same⟩ | ⟨value, same⟩ := visitNegative_cases [selector] <;> rw [same] <;> trivial
  | positive | nil | boolean =>
    obtain ⟨rfl, -⟩ := announced
    trivial
  | string | float32 | float64 | unsigned | extension =>
    obtain ⟨-, rfl⟩ := announced
    trivial
  | container | counted | invalid => exact announced.elim

theorem Spelled.uncons {depth : ℕ} {object : Object} {objects : List Object} {bytes : List UInt8}
    (spelled : Spelled depth (object :: objects) bytes) :
    ∃ front back, bytes = front ++ back ∧ Spelled depth [object] front ∧
      Spelled depth objects back := by
  cases spelled with
  | @value _ _ _ front back spelled others =>
    exact ⟨front, back, rfl, List.append_nil front ▸ .value spelled (.nil _), others⟩
  | array spelled inside others =>
    exact ⟨_, _, (List.append_assoc _ _ _).symm, .closeArray spelled inside, others⟩
  | map spelled inside others =>
    exact ⟨_, _, (List.append_assoc _ _ _).symm, .closeMap spelled inside, others⟩

theorem Spelled.mono {depth more : ℕ} {objects : List Object} {bytes : List UInt8}
    (spelled : Spelled depth objects bytes) (le : depth ≤ more) : Spelled more objects bytes := by
  induction spelled generalizing more with
  | nil => exact .nil more
  | value spelled others inductionHypothesis => exact .value spelled (inductionHypothesis le)
  | array spelled inside others ofItems ofOthers =>
    obtain ⟨more, rfl⟩ := Nat.exists_eq_add_of_le' (Nat.one_le_of_lt le)
    exact .array spelled (ofItems (Nat.le_of_succ_le_succ le)) (ofOthers le)
  | map spelled inside others ofEntries ofOthers =>
    obtain ⟨more, rfl⟩ := Nat.exists_eq_add_of_le' (Nat.one_le_of_lt le)
    exact .map spelled (ofEntries (Nat.le_of_succ_le_succ le)) (ofOthers le)

theorem Spelled.leaf {depth : ℕ} {object : Object} {bytes : List UInt8} (leaf : object.IsLeaf)
    (spelled : Spelled depth [object] bytes) : (Token.value object).Spells bytes := by
  cases spelled with
  | value spelled others =>
    obtain rfl := others.eq_nil
    rwa [List.append_nil]
  | array => exact leaf.elim
  | map => exact leaf.elim

theorem Spelled.unarray {depth : ℕ} {items : List Object} {bytes : List UInt8}
    (spelled : Spelled depth [.array items] bytes) :
    ∃ front body inner, bytes = front ++ body ∧
      (Token.start .array items.length).Spells front ∧ Spelled inner items body := by
  cases spelled with
  | value spelled others => exact spelled.isLeaf.elim
  | array spelled inside others =>
    obtain rfl := others.eq_nil
    exact ⟨_, _, _, by rw [List.append_nil], spelled, inside⟩

theorem Spelled.unmap {depth : ℕ} {entries : List (Object × Object)} {bytes : List UInt8}
    (spelled : Spelled depth [.map entries] bytes) :
    ∃ front body inner, bytes = front ++ body ∧
      (Token.start .map entries.length).Spells front ∧ Spelled inner (flatten entries) body := by
  cases spelled with
  | value spelled others => exact spelled.isLeaf.elim
  | map spelled inside others =>
    obtain rfl := others.eq_nil
    exact ⟨_, _, _, by rw [List.append_nil], spelled, inside⟩

/-- A byte string of a list of objects of which there is no shorter one. -/
structure Packs (depth : ℕ) (objects : List Object) (bytes : List UInt8) : Prop where
  spelled : Spelled depth objects bytes
  shortest : ∀ {inner : ℕ} {other : List UInt8}, Spelled inner objects other →
    bytes.length ≤ other.length

namespace Packs

variable {depth : ℕ}

theorem nil : Packs depth [] [] :=
  ⟨.nil depth, fun _ => Nat.zero_le _⟩

theorem cons {object : Object} {objects : List Object} {front back : List UInt8}
    (first : Packs depth [object] front) (others : Packs depth objects back) :
    Packs depth (object :: objects) (front ++ back) := by
  refine ⟨first.spelled.append others.spelled, fun spelled => ?_⟩
  obtain ⟨front', back', rfl, spelled, spelled'⟩ := spelled.uncons
  rw [List.length_append, List.length_append]
  exact Nat.add_le_add (first.shortest spelled) (others.shortest spelled')

/-- An object that is one token. -/
theorem leaf {object : Object} {bytes : List UInt8} (spelled : (Token.value object).Spells bytes)
    (shortest : ∀ {other : List UInt8}, (Token.value object).Spells other →
      bytes.length ≤ other.length) : Packs depth [object] bytes :=
  ⟨List.append_nil bytes ▸ .value spelled (.nil depth),
    fun other => shortest (other.leaf spelled.isLeaf)⟩

theorem byte {object : Object} {selector : UInt8} (known : head selector = .whole object) :
    Packs depth [object] [selector] :=
  leaf (spells_whole known) fun other => other.length_pos

theorem str {content : List UInt8} (small : content.length < 2 ^ 32) :
    Packs depth [.str content] (packStr content.length ++ content) := by
  refine leaf (packStr_spells small) fun other => ?_
  obtain ⟨header, rfl, holds⟩ := @spells_raw .str _ _ (by decide) other
  rw [List.length_append, List.length_append]
  exact Nat.add_le_add_right (packStr_shortest holds) _

theorem bin {content : List UInt8} (small : content.length < 2 ^ 32) :
    Packs depth [.bin content] (packBin content.length ++ content) := by
  refine leaf (packBin_spells small) fun other => ?_
  obtain ⟨header, rfl, holds⟩ := @spells_raw .bin _ _ (by decide) other
  rw [List.length_append, List.length_append]
  exact Nat.add_le_add_right (packBin_shortest holds) _

theorem array {items : List Object} {body : List UInt8} (small : items.length < 2 ^ 32)
    (inside : Packs depth items body) :
    Packs (depth + 1) [.array items] (packArray items.length ++ body) := by
  refine ⟨.closeArray (packArray_spells small) inside.spelled, fun other => ?_⟩
  obtain ⟨front, body', inner, rfl, started, spelled⟩ := other.unarray
  rw [List.length_append, List.length_append]
  exact Nat.add_le_add (packArray_shortest (spells_start started)) (inside.shortest spelled)

theorem map {entries : List (Object × Object)} {body : List UInt8}
    (small : entries.length < 2 ^ 32) (inside : Packs depth (flatten entries) body) :
    Packs (depth + 1) [.map entries] (packMap entries.length ++ body) := by
  refine ⟨.closeMap (packMap_spells small) inside.spelled, fun other => ?_⟩
  obtain ⟨front, body', inner, rfl, started, spelled⟩ := other.unmap
  rw [List.length_append, List.length_append]
  exact Nat.add_le_add (packMap_shortest (spells_start started)) (inside.shortest spelled)

end Packs

end RpcInstance.Msgpack
