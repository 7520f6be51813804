import Mathlib
import RequestKeys.Number.Written

/-!
# The bits of a double

A double that is a number, or infinite, is determined by its sign and by the bits of its absolute
value, and negation changes the sign alone (`exists_eq_signed`, `toNat_toBits_signed`).
-/

namespace RequestKeys.Number

open Float.Model (Format UnpackedFloat)
open Float.Model.UnpackedFloat (Sign packComponents unpackMantissa_packComponents
  unpackExponent_packComponents unpackSign_packComponents)

variable {exponent : BitVec 11} {fraction : BitVec 52} {x y : Float}

/-! ## The parts of the bits -/

theorem exists_packComponents (b : BitVec 64) :
    ∃ sign exponent fraction, b = packComponents .binary64 sign exponent fraction :=
  ⟨_, _, _,
    (@UnpackedFloat.packComponents_unpackSign_unpackExponent_unpackMantissa .binary64 b).symm⟩

theorem toNat_packComponents (sign : Sign) (exponent : BitVec 11) (fraction : BitVec 52) :
    (packComponents .binary64 sign exponent fraction).toNat =
      sign.toBitVec.toNat * 2 ^ 63 + exponent.toNat * 2 ^ 52 + fraction.toNat := by
  show (sign.toBitVec ++ exponent ++ fraction).toNat = _
  rw [BitVec.toNat_append, BitVec.toNat_append, ← Nat.shiftLeft_add_eq_or_of_lt fraction.isLt,
    ← Nat.shiftLeft_add_eq_or_of_lt exponent.isLt]
  simp only [Nat.shiftLeft_eq]
  omega

/-- What is unpacked is packed again into the same parts, unless it is no number. -/
theorem pack_unpack_packComponents (sign : Sign) (h : exponent = -1#11 → fraction = 0#52) :
    (UnpackedFloat.unpack .binary64 (packComponents .binary64 sign exponent fraction)).pack
      .binary64 = packComponents .binary64 sign exponent fraction := by
  rw [UnpackedFloat.pack_unpack, if_neg]
  simp only [UnpackedFloat.isNaNBits, unpackExponent_packComponents, unpackMantissa_packComponents,
    decide_eq_true_iff, not_and, not_not]
  exact h

/-- Negation changes the sign. -/
theorem neg_unpack_packComponents (sign : Sign) (exponent : BitVec 11) (fraction : BitVec 52) :
    (UnpackedFloat.unpack .binary64 (packComponents .binary64 sign exponent fraction)).neg =
      UnpackedFloat.unpack .binary64 (packComponents .binary64 (-sign) exponent fraction) := by
  unfold UnpackedFloat.unpack
  simp only [unpackMantissa_packComponents, unpackExponent_packComponents,
    unpackSign_packComponents, Sign.ofBitVec_toBitVec]
  split_ifs <;> rfl

/-! ## Doubles by sign and size -/

theorem eq_of_toBits_eq (h : x.toBits = y.toBits) : x = y := by
  obtain ⟨⟨bits, valid⟩⟩ := x
  obtain ⟨⟨bits', valid'⟩⟩ := y
  obtain rfl : bits = bits' := h
  rfl

/-- The bits of the infinite double. -/
def infiniteBits : Nat := 0x7FF0000000000000

/-- The double with a sign and the bits of its absolute value. -/
def signed (negative : Bool) (size : Nat) : Float :=
  if negative then -Float.ofBits size.toUInt64 else Float.ofBits size.toUInt64

/-- The bits of a double that is made of parts. -/
theorem toBits_signed_of_parts (negative : Bool) {size : Nat}
    (bits : size.toUInt64.toBitVec = packComponents .binary64 .positive exponent fraction)
    (h : exponent = -1#11 → fraction = 0#52) :
    (signed negative size).toBits.toBitVec =
      packComponents .binary64 (if negative then .negative else .positive) exponent fraction := by
  cases negative with
  | false =>
    show UnpackedFloat.pack .binary64 (UnpackedFloat.unpack .binary64 size.toUInt64.toBitVec) = _
    rw [bits, pack_unpack_packComponents .positive h]
    rfl
  | true =>
    show UnpackedFloat.pack .binary64 (UnpackedFloat.unpack .binary64
      (UnpackedFloat.pack .binary64
        (UnpackedFloat.unpack .binary64 size.toUInt64.toBitVec))).neg = _
    rw [bits, pack_unpack_packComponents .positive h, neg_unpack_packComponents,
      pack_unpack_packComponents _ h]
    rfl

theorem toNat_toBits_signed (negative : Bool) {size : Nat} (h : size ≤ infiniteBits) :
    (signed negative size).toBits.toNat = (if negative then 2 ^ 63 else 0) + size := by
  obtain ⟨sign, exponent, fraction, bits⟩ := exists_packComponents size.toUInt64.toBitVec
  have value : size = sign.toBitVec.toNat * 2 ^ 63 + exponent.toNat * 2 ^ 52 + fraction.toNat := by
    have := congrArg BitVec.toNat bits
    rw [toNat_packComponents] at this
    rw [← this]
    show size = size % 2 ^ 64
    unfold infiniteBits at h
    omega
  have fraction_lt := fraction.isLt
  unfold infiniteBits at h
  cases sign with
  | negative =>
    have one : Sign.negative.toBitVec.toNat = 1 := rfl
    omega
  | positive =>
    have zero : Sign.positive.toBitVec.toNat = 0 := rfl
    have infinite : exponent = -1#11 → fraction = 0#52 := by
      rintro rfl
      have full : (-1#11).toNat = 2047 := rfl
      apply BitVec.eq_of_toNat_eq
      show fraction.toNat = 0
      omega
    show (signed negative size).toBits.toBitVec.toNat = _
    have first : (if negative then Sign.negative else .positive).toBitVec.toNat * 2 ^ 63 =
        if negative then 2 ^ 63 else 0 := by cases negative <;> rfl
    rw [toBits_signed_of_parts negative bits infinite, toNat_packComponents, first]
    generalize (if negative then 2 ^ 63 else 0) = top
    omega

/-- A double that is a number or infinite is one with a sign and a size. -/
theorem exists_eq_signed (h : x.isNaN = false) :
    ∃ negative size, size ≤ infiniteBits ∧ x = signed negative size := by
  have valid : Format.binary64.Valid x.toBits.toBitVec := x.toModel.valid
  have number : x.toBits.toBitVec ≠ UnpackedFloat.packedNaN .binary64 := fun same => by
    have undefined : x.isNaN = true := (UnpackedFloat.isNaN_unpack_iff_of_valid valid).2 same
    rw [h] at undefined
    cases undefined
  obtain ⟨sign, exponent, fraction, bits⟩ := exists_packComponents x.toBits.toBitVec
  have infinite : exponent = -1#11 → fraction = 0#52 := by
    intro full
    by_contra other
    apply number
    apply valid.eq_packedNaN
    · rw [bits, unpackExponent_packComponents]
      exact full
    · rw [bits, unpackMantissa_packComponents]
      exact other
  have exponent_lt : exponent.toNat < 2 ^ 11 := exponent.isLt
  have fraction_lt : fraction.toNat < 2 ^ 52 := fraction.isLt
  have small : exponent.toNat * 2 ^ 52 + fraction.toNat ≤ infiniteBits := by
    unfold infiniteBits
    by_cases full : exponent.toNat = 2047
    · have zero : fraction.toNat = 0 :=
        congrArg BitVec.toNat (infinite (BitVec.eq_of_toNat_eq full))
      omega
    · omega
  refine ⟨sign == .negative, _, small, eq_of_toBits_eq (UInt64.toNat_inj.1 ?_)⟩
  rw [toNat_toBits_signed _ small, ← UInt64.toNat_toBitVec, bits, toNat_packComponents,
    Nat.add_assoc]
  cases sign <;> rfl

/-- What is no number has one pattern of bits. -/
theorem eq_of_isNaN (h : x.isNaN = true) : x = Float.ofBits 0x7FF8000000000000 := by
  have valid : Format.binary64.Valid x.toBits.toBitVec := x.toModel.valid
  have bits := (UnpackedFloat.isNaN_unpack_iff_of_valid valid).1 h
  apply eq_of_toBits_eq
  apply UInt64.toBitVec_inj.1
  rw [bits]
  rfl

end RequestKeys.Number
