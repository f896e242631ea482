/-
This file is about the integer types, of any width and signedness.

There is one packing function for each type, and each has its own ladder of
formats. They agree: an integer is packed in one form, whatever the type it is
packed from (`IntType.pack_eq`), and no shorter byte string stands for it
(`packInteger_shortest`). Converting checks the range of the type it converts to,
so an integer travels between two types by its value.
-/

import Mathlib.Tactic.SplitIfs
import RpcInstance.Msgpack.Adaptors
import RpcInstance.Msgpack.Forms

namespace RpcInstance.Msgpack

open BigEndian

/-! ### One form for every integer -/

/-- The form of an integer that does not depend on its type. -/
def packInteger (d : ℤ) : List UInt8 :=
  if d < 0 then
    if -2 ^ 5 ≤ d then ofInt 1 d
    else if -2 ^ 7 ≤ d then 0xd0 :: ofInt 1 d
    else if -2 ^ 15 ≤ d then 0xd1 :: ofInt 2 d
    else if -2 ^ 31 ≤ d then 0xd2 :: ofInt 4 d
    else 0xd3 :: ofInt 8 d
  else if d < 2 ^ 7 then ofInt 1 d
  else if d < 2 ^ 8 then 0xcc :: ofInt 1 d
  else if d < 2 ^ 16 then 0xcd :: ofInt 2 d
  else if d < 2 ^ 32 then 0xce :: ofInt 4 d
  else 0xcf :: ofInt 8 d

theorem IntType.width_pos (T : IntType) : 0 < T.width := by
  cases T <;> decide

theorem IntType.two_pow_width (T : IntType) :
    (2 : ℤ) ^ (8 * T.width) = 2 * 2 ^ (8 * T.width - 1) := by
  have positive := T.width_pos
  rw [← Int.pow_succ', show 8 * T.width - 1 + 1 = 8 * T.width by omega]

theorem IntType.toInt_bounds (T : IntType) (value : T.Value) :
    T.min ≤ T.toInt value ∧ T.toInt value ≤ T.max := by
  have doubled := T.two_pow_width
  rw [toInt, min, max]
  cases T.signed with
  | true =>
    have lower := value.le_two_mul_toInt
    have upper := value.two_mul_toInt_lt
    simp only [if_true]
    omega
  | false =>
    have upper := value.isLt
    simp only [Bool.false_eq_true, if_false]
    zify at upper
    omega

/-- A cast changes no integer in the range of the type. -/
theorem IntType.toInt_cast {T : IntType} {value : ℤ} (lower : T.min ≤ value)
    (upper : value ≤ T.max) : T.toInt (T.cast value) = value := by
  have doubled := T.two_pow_width
  rw [min] at lower
  rw [max] at upper
  rw [toInt, cast]
  cases signed : T.signed with
  | true =>
    rw [signed] at lower upper
    simp only [if_true] at lower upper ⊢
    rw [BitVec.toInt_ofInt]
    exact Int.bmod_eq_of_le_mul_two (by push_cast; omega) (by push_cast; omega)
  | false =>
    rw [signed] at lower upper
    simp only [Bool.false_eq_true, if_false] at lower upper ⊢
    rw [BitVec.toNat_ofInt, Int.toNat_of_nonneg (Int.emod_nonneg _ (by positivity))]
    exact Int.emod_eq_of_lt lower (by push_cast; omega)

theorem IntType.toInt_inj {T : IntType} {first second : T.Value} :
    T.toInt first = T.toInt second ↔ first = second := by
  rw [toInt, toInt]
  cases T.signed with
  | true => exact BitVec.toInt_inj
  | false => exact Int.natCast_inj.trans BitVec.toNat_inj

/-- Each packing function packs an integer of its type in the form of that integer. -/
theorem IntType.pack_eq (T : IntType) (value : T.Value) :
    T.pack value = packInteger (T.toInt value) := by
  obtain ⟨lower, upper⟩ := T.toInt_bounds value
  cases T
  all_goals
    rw [IntType.pack]
    generalize IntType.toInt _ value = d at lower upper ⊢
    norm_num [IntType.min, IntType.max, IntType.signed, IntType.width] at lower upper
    unfold packInteger
  case int8 => unfold packImpInt8; grind
  case int16 => unfold packImpInt16; grind
  case int32 => unfold packImpInt32; grind
  case int64 => unfold packImpInt64; grind
  case uint8 => unfold packImpUint8; grind
  case uint16 => unfold packImpUint16; grind
  case uint32 => unfold packImpUint32; grind
  case uint64 => unfold packImpUint64; grind

/-! ### The objects of integers -/

/-- The integers that an object can hold. -/
def Storable (d : ℤ) : Prop :=
  -2 ^ 63 ≤ d ∧ d < 2 ^ 64

theorem IntType.storable (T : IntType) (value : T.Value) : Storable (T.toInt value) := by
  obtain ⟨lower, upper⟩ := T.toInt_bounds value
  unfold Storable
  cases T <;> norm_num [IntType.min, IntType.max, IntType.signed, IntType.width] at * <;> omega

theorem visitNegative_ofInt {width : ℕ} {d : ℤ} (lower : -256 ^ width ≤ 2 * d)
    (upper : 2 * d < 256 ^ width) : visitNegative (ofInt width d) = visitNegativeInteger d := by
  rw [visitNegative, ofBytesSigned_ofInt lower upper]

theorem visitPositive_ofInt {width : ℕ} {d : ℤ} (nonneg : 0 ≤ d) (upper : d < 256 ^ width) :
    visitPositive (ofInt width d) = visitNegativeInteger d := by
  rw [visitPositive, ofBytes_ofInt_of_nonneg nonneg upper, visitNegativeInteger, if_pos nonneg]

theorem visitPositive_singleton (selector : UInt8) :
    visitPositive [selector] = .positiveInteger selector.toUInt64 := by
  rw [visitPositive, ofBytes_singleton]
  exact congrArg _ (UInt64.toNat_inj.mp (UInt64.toNat_ofNat_of_lt' (by
    exact selector.toNat_lt.trans (by decide))))

/-- An integer from -32 to 127 is the first byte. -/
theorem spells_fixint {d : ℤ} (lower : -2 ^ 5 ≤ d) (upper : d < 2 ^ 7) :
    (Token.value (visitNegativeInteger d)).Spells (ofInt 1 d) := by
  obtain ⟨selector, same⟩ := List.length_eq_one_iff.mp (ofInt_length 1 d)
  have value := ofBytes_ofInt 1 d
  rw [same, ofBytes_singleton] at value
  rw [same]
  refine spells_whole ?_
  rcases lt_or_ge d 0 with negative | nonneg
  · have large : 0xe0 ≤ selector := UInt8.le_iff_toNat_le.mpr (show 224 ≤ _ by omega)
    have notSmall : ¬ selector ≤ 0x7f := fun small => by
      have bound : selector.toNat ≤ 127 := UInt8.le_iff_toNat_le.mp small
      omega
    rw [head, if_neg notSmall, if_pos large, ← same, visitNegative_ofInt (by omega) (by omega)]
  · have small : selector ≤ 0x7f := UInt8.le_iff_toNat_le.mpr (show _ ≤ 127 by omega)
    rw [head, if_pos small, ← visitPositive_singleton, ← same,
      visitPositive_ofInt nonneg (by omega)]

theorem spells_negative {selector : UInt8} {width : ℕ} {d : ℤ}
    (known : head selector = .fixed width visitNegative) (lower : -256 ^ width ≤ 2 * d)
    (upper : 2 * d < 256 ^ width) :
    (Token.value (visitNegativeInteger d)).Spells (selector :: ofInt width d) :=
  visitNegative_ofInt lower upper ▸ spells_fixed known (ofInt_length width d)

theorem spells_positive {selector : UInt8} {width : ℕ} {d : ℤ}
    (known : head selector = .fixed width visitPositive) (nonneg : 0 ≤ d)
    (upper : d < 256 ^ width) :
    (Token.value (visitNegativeInteger d)).Spells (selector :: ofInt width d) :=
  visitPositive_ofInt nonneg upper ▸ spells_fixed known (ofInt_length width d)

theorem packInteger_spells {d : ℤ} (storable : Storable d) :
    (Token.value (visitNegativeInteger d)).Spells (packInteger d) := by
  obtain ⟨lower, upper⟩ := storable
  unfold packInteger
  split_ifs
  · exact spells_fixint (by omega) (by omega)
  · exact spells_negative rfl (by omega) (by omega)
  · exact spells_negative rfl (by omega) (by omega)
  · exact spells_negative rfl (by omega) (by omega)
  · exact spells_negative rfl (by omega) (by omega)
  · exact spells_fixint (by omega) (by omega)
  · exact spells_positive rfl (by omega) (by omega)
  · exact spells_positive rfl (by omega) (by omega)
  · exact spells_positive rfl (by omega) (by omega)
  · exact spells_positive rfl (by omega) (by omega)

theorem visitNegativeInteger_inj {first second : ℤ} (storable : Storable first)
    (storable' : Storable second) :
    visitNegativeInteger first = visitNegativeInteger second ↔ first = second := by
  refine ⟨fun same => ?_, congrArg _⟩
  unfold Storable at storable storable'
  unfold visitNegativeInteger at same
  split_ifs at same with nonneg nonneg' nonneg'
  · have numbers := congrArg UInt64.toNat (Object.positiveInteger.inj same)
    rw [UInt64.toNat_ofNat_of_lt' (show first.toNat < 2 ^ 64 by omega),
      UInt64.toNat_ofNat_of_lt' (show second.toNat < 2 ^ 64 by omega)] at numbers
    omega
  · exact Object.negativeInteger.inj same

theorem visitPositive_eq (bytes : List UInt8) :
    visitPositive bytes = visitNegativeInteger (ofBytes bytes) := by
  rw [visitPositive, visitNegativeInteger, if_pos (Int.natCast_nonneg _), Int.toNat_natCast]

theorem ofBytesSigned_bounds (bytes : List UInt8) :
    -256 ^ bytes.length ≤ 2 * ofBytesSigned bytes ∧
      2 * ofBytesSigned bytes < 256 ^ bytes.length := by
  have bound := ofBytes_lt bytes
  zify at bound
  unfold ofBytesSigned
  split_ifs with small <;> zify at small <;> constructor <;> omega

/-- The integers that a field of some width holds, without a sign or with one. -/
def Fits (width : ℕ) (d : ℤ) : Prop :=
  (0 ≤ d ∧ d < 256 ^ width) ∨ (-256 ^ width ≤ 2 * d ∧ 2 * d < 256 ^ width)

theorem Fits.storable {width : ℕ} {d : ℤ} (known : width ∈ [1, 2, 4, 8]) (fits : Fits width d) :
    Storable d := by
  unfold Fits at fits
  unfold Storable
  simp only [List.mem_cons, List.not_mem_nil, or_false] at known
  rcases known with rfl | rfl | rfl | rfl <;> omega

theorem fits_ofBytes (bytes : List UInt8) : Fits bytes.length (ofBytes bytes) := by
  have bound := ofBytes_lt bytes
  zify at bound
  exact Or.inl ⟨Int.natCast_nonneg _, bound⟩

/-- Every form of an integer is the first byte alone, or it has a field that holds the integer. -/
theorem spells_integer {d : ℤ} {bytes : List UInt8} (storable : Storable d)
    (spelled : (Token.value (visitNegativeInteger d)).Spells bytes) :
    (bytes.length = 1 ∧ -2 ^ 5 ≤ d ∧ d < 2 ^ 7) ∨
      ∃ width ∈ [1, 2, 4, 8], bytes.length = 1 + width ∧ Fits width d := by
  obtain ⟨selector, rest, rfl, announced⟩ := spells_iff.mp spelled
  rw [announces_value_iff] at announced
  have entry := head_entry selector
  generalize head selector = first at announced entry
  cases entry with
  | positive selector small =>
    obtain ⟨same, rfl⟩ := announced
    have bound : selector.toNat ≤ 127 := UInt8.le_iff_toNat_le.mp small
    rw [← visitPositive_singleton, visitPositive_eq, visitNegativeInteger_inj
      ((fits_ofBytes [selector]).storable List.mem_cons_self) storable, ofBytes_singleton] at same
    exact Or.inl ⟨rfl, by omega, by omega⟩
  | negative selector large =>
    obtain ⟨same, rfl⟩ := announced
    have bound : 224 ≤ selector.toNat := UInt8.le_iff_toNat_le.mp large
    have small := selector.toNat_lt
    have fits : Fits [selector].length (ofBytesSigned [selector]) :=
      Or.inr (ofBytesSigned_bounds [selector])
    rw [visitNegative, visitNegativeInteger_inj (fits.storable List.mem_cons_self) storable,
      ofBytesSigned, ofBytes_singleton, List.length_singleton, if_neg (by omega)] at same
    exact Or.inl ⟨rfl, by omega, by omega⟩
  | unsigned width member =>
    obtain ⟨rfl, same⟩ := announced
    have fits := fits_ofBytes rest
    rw [visitPositive_eq, visitNegativeInteger_inj (fits.storable member) storable] at same
    exact Or.inr ⟨_, member, Nat.add_comm _ _, same ▸ fits⟩
  | signed width member =>
    obtain ⟨rfl, same⟩ := announced
    have fits : Fits rest.length (ofBytesSigned rest) := Or.inr (ofBytesSigned_bounds rest)
    rw [visitNegative, visitNegativeInteger_inj (fits.storable member) storable] at same
    exact Or.inr ⟨_, member, Nat.add_comm _ _, same ▸ fits⟩
  | sized kind width member =>
    obtain ⟨size, body, -, -, -, same⟩ := announced
    obtain ⟨value, integer⟩ | ⟨value, integer⟩ := visitNegativeInteger_cases d <;>
      cases kind <;> cases same.trans integer
  | nil | boolean =>
    obtain ⟨value, integer⟩ | ⟨value, integer⟩ := visitNegativeInteger_cases d <;>
      cases announced.1.trans integer
  | string | float32 | float64 | extension =>
    obtain ⟨value, integer⟩ | ⟨value, integer⟩ := visitNegativeInteger_cases d <;>
      cases announced.2.trans integer
  | container | counted | invalid => exact announced.elim

/-- No form of an integer is shorter than the one that the packing functions write. -/
theorem packInteger_shortest {d : ℤ} {bytes : List UInt8} (storable : Storable d)
    (spelled : (Token.value (visitNegativeInteger d)).Spells bytes) :
    (packInteger d).length ≤ bytes.length := by
  obtain ⟨single, lower, upper⟩ | ⟨width, known, length, fits⟩ := spells_integer storable spelled
  · unfold packInteger
    grind [ofInt_length]
  · unfold Fits at fits
    simp only [List.mem_cons, List.not_mem_nil, or_false] at known
    rcases known with rfl | rfl | rfl | rfl <;> unfold packInteger <;> grind [ofInt_length]

theorem Packs.integer {depth : ℕ} {d : ℤ} (storable : Storable d) :
    Packs depth [visitNegativeInteger d] (packInteger d) :=
  .leaf (packInteger_spells storable) (packInteger_shortest storable)

/-! ### Converting integers -/

theorem IntType.min_nonpos (T : IntType) : T.min ≤ 0 := by
  cases T <;> decide

theorem IntType.max_nonneg (T : IntType) : 0 ≤ T.max := by
  cases T <;> decide

/-- An integer converts to the types that have it in their range, and to no other. -/
theorem convertInteger_eq (T : IntType) {d : ℤ} (storable : Storable d) :
    convertInteger T (visitNegativeInteger d) =
      if T.min ≤ d ∧ d ≤ T.max then .ok (T.cast d) else .error typeError := by
  obtain ⟨lower, upper⟩ := storable
  have belowZero := T.min_nonpos
  have aboveZero := T.max_nonneg
  unfold visitNegativeInteger
  split_ifs with nonneg inside inside
  · rw [convertInteger, UInt64.toNat_ofNat_of_lt' (show d.toNat < 2 ^ 64 by omega),
      Int.toNat_of_nonneg nonneg, if_neg (not_lt.mpr inside.2)]
  · rw [convertInteger, UInt64.toNat_ofNat_of_lt' (show d.toNat < 2 ^ 64 by omega),
      Int.toNat_of_nonneg nonneg, if_pos (by omega)]
  · rw [convertInteger]
    split_ifs with signed below
    · exact absurd inside.1 (not_le.mpr below)
    · rfl
    · rw [IntType.min, if_neg signed] at inside
      exact absurd inside.1 nonneg
  · rw [convertInteger]
    split_ifs with signed below
    · rfl
    · exact absurd ⟨not_lt.mp below, by omega⟩ inside
    · rfl

/-- Where two types hold the same integer, it converts from one to the other. -/
theorem convertInteger_toInt {S T : IntType} {sent : S.Value} {value : T.Value}
    (same : S.toInt sent = T.toInt value) :
    convertInteger T (visitNegativeInteger (S.toInt sent)) = .ok value := by
  obtain ⟨lower, upper⟩ := T.toInt_bounds value
  rw [convertInteger_eq T (S.storable sent), same, if_pos ⟨lower, upper⟩]
  exact congrArg _ (IntType.toInt_inj.mp (IntType.toInt_cast lower upper))

end RpcInstance.Msgpack
