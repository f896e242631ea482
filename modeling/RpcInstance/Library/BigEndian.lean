/-
This file writes natural numbers as byte strings of a fixed width, the most
significant byte first, and reads them back.
-/

import Mathlib.Data.UInt
import Mathlib.Tactic.Positivity
import Mathlib.Tactic.Ring
import Mathlib.Tactic.Zify

namespace BigEndian

/-- The last `width` bytes of `value`, the most significant first. -/
def toBytes : ℕ → ℕ → List UInt8
  | 0, _ => []
  | width + 1, value => UInt8.ofNat (value / 256 ^ width) :: toBytes width value

/-- The number a byte string stands for. -/
def ofBytes : List UInt8 → ℕ
  | [] => 0
  | byte :: rest => byte.toNat * 256 ^ rest.length + ofBytes rest

/-- The number a byte string stands for in two's complement. -/
def ofBytesSigned (bytes : List UInt8) : ℤ :=
  if 2 * ofBytes bytes < 256 ^ bytes.length then ofBytes bytes
  else (ofBytes bytes : ℤ) - 256 ^ bytes.length

@[simp] theorem toBytes_length (width value : ℕ) : (toBytes width value).length = width := by
  induction width with
  | zero => rfl
  | succ width inductionHypothesis => rw [toBytes, List.length_cons, inductionHypothesis]

@[simp] theorem ofBytes_singleton (byte : UInt8) : ofBytes [byte] = byte.toNat := by
  rw [ofBytes, ofBytes, List.length_nil, Nat.pow_zero, Nat.mul_one, Nat.add_zero]

theorem ofBytes_lt (bytes : List UInt8) : ofBytes bytes < 256 ^ bytes.length := by
  induction bytes with
  | nil => exact Nat.one_pos
  | cons byte rest inductionHypothesis =>
    have small : byte.toNat ≤ 255 := Nat.le_of_lt_succ byte.toNat_lt
    have high := Nat.mul_le_mul_right (256 ^ rest.length) small
    rw [ofBytes, List.length_cons, Nat.pow_succ]
    omega

/-- Reading what was written gives the number back, as far as it fits the width. -/
theorem ofBytes_toBytes (width value : ℕ) :
    ofBytes (toBytes width value) = value % 256 ^ width := by
  induction width with
  | zero => rw [Nat.pow_zero, Nat.mod_one, toBytes, ofBytes]
  | succ width inductionHypothesis =>
    have split : value % 256 ^ (width + 1) =
        value % 256 ^ width + 256 ^ width * (value / 256 ^ width % 256) := by
      rw [Nat.pow_succ, Nat.mod_mul]
    rw [toBytes, ofBytes, inductionHypothesis, toBytes_length, UInt8.toNat_ofNat', split]
    show value / 256 ^ width % 256 * 256 ^ width + value % 256 ^ width = _
    ring

theorem ofBytes_toBytes_of_lt {width value : ℕ} (fits : value < 256 ^ width) :
    ofBytes (toBytes width value) = value := by
  rw [ofBytes_toBytes, Nat.mod_eq_of_lt fits]

/-! ### Two's complement -/

/-- The last `width` bytes of an integer in two's complement, the most significant first. -/
def ofInt (width : ℕ) (value : ℤ) : List UInt8 :=
  toBytes width (value % 256 ^ width).toNat

@[simp] theorem ofInt_length (width : ℕ) (value : ℤ) : (ofInt width value).length = width :=
  toBytes_length width _

theorem ofBytes_ofInt (width : ℕ) (value : ℤ) :
    (ofBytes (ofInt width value) : ℤ) = value % 256 ^ width := by
  have positive : (0 : ℤ) < 256 ^ width := by positivity
  have small := Int.emod_lt_of_pos value positive
  have back := Int.toNat_of_nonneg (Int.emod_nonneg value positive.ne')
  rw [ofInt, ofBytes_toBytes_of_lt, back]
  zify
  rwa [back]

/-- A non-negative integer that fits the width is read back as an unsigned one. -/
theorem ofBytes_ofInt_of_nonneg {width : ℕ} {value : ℤ} (nonneg : 0 ≤ value)
    (fits : value < 256 ^ width) : ofBytes (ofInt width value) = value.toNat := by
  have read := ofBytes_ofInt width value
  rw [Int.emod_eq_of_lt nonneg fits] at read
  omega

/-- An integer that fits the width with its sign is read back with it. -/
theorem ofBytesSigned_ofInt {width : ℕ} {value : ℤ} (lower : -256 ^ width ≤ 2 * value)
    (upper : 2 * value < 256 ^ width) : ofBytesSigned (ofInt width value) = value := by
  have read := ofBytes_ofInt width value
  rw [ofBytesSigned, ofInt_length]
  rcases lt_or_ge value 0 with negative | nonneg
  · have wrapped : value % 256 ^ width = value + 256 ^ width := by
      rw [← Int.add_emod_right, Int.emod_eq_of_lt (by omega) (by omega)]
    rw [if_neg (by zify; omega), read, wrapped]
    ring
  · rw [Int.emod_eq_of_lt nonneg (by omega)] at read
    rw [if_pos (by zify; omega), read]

end BigEndian
