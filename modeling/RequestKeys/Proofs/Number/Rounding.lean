import Mathlib.Algebra.Order.Field.Power
import Mathlib.Data.Rat.Cast.Order
import Mathlib.Tactic.FieldSimp
import Mathlib.Tactic.GCongr
import Mathlib.Tactic.Linarith
import Mathlib.Tactic.NormNum
import Mathlib.Tactic.Positivity
import RequestKeys.Number.Nearest
import RequestKeys.Proofs.Text.Digits

/-!
# Rounding to a double

The double nearest to a decimal is `m · 2^q` if the decimal is at most half a unit in the last place
away from it, a tie going to the even significand, and half as far below where the units get smaller
(`nearest_eq`).
-/

namespace RequestKeys.Number

variable {num den n d r m : Nat} {q s top : Int} {v : ℚ}

/-! ## Significands -/

/-- The significands and exponents of the finite doubles: without a leading bit only at the least
exponent. -/
structure IsSignificand (m : Nat) (q : Int) : Prop where
  lt : m < 2 ^ 53
  low : -1074 ≤ q
  high : q ≤ 971
  normal : 2 ^ 52 ≤ m ∨ q = -1074

/-- A number rounds to `m · 2^q`. -/
structure RoundsTo (m : Nat) (q : Int) (v : ℚ) : Prop where
  below : (m - 1 / 2) * 2 ^ q ≤ v
  above : v ≤ (m + 1 / 2) * 2 ^ q
  tie : v = (m - 1 / 2) * 2 ^ q ∨ v = (m + 1 / 2) * 2 ^ q → m % 2 = 0
  edge : m = 2 ^ 52 → -1074 < q → (m - 1 / 4) * 2 ^ q ≤ v

/-! ## The nearest natural number -/

theorem roundDiv_eq (positive : 0 < d) (below : 2 * (d * r) ≤ 2 * n + d)
    (above : 2 * n ≤ 2 * (d * r) + d)
    (tie : 2 * (d * r) = 2 * n + d ∨ 2 * n = 2 * (d * r) + d → r % 2 = 0) : roundDiv n d = r := by
  have division := Nat.div_add_mod n d
  have small := Nat.mod_lt n positive
  have upper : r ≤ n / d + 1 := by
    by_contra large
    have more : d * (n / d + 2) ≤ d * r := Nat.mul_le_mul_left d (by omega)
    rw [Nat.mul_add] at more
    omega
  have lower : n / d ≤ r := by
    by_contra large
    have more : d * (r + 1) ≤ d * (n / d) := Nat.mul_le_mul_left d (by omega)
    rw [Nat.mul_add] at more
    omega
  unfold roundDiv
  dsimp only
  rcases (by omega : r = n / d ∨ r = n / d + 1) with rfl | rfl
  · split_ifs <;> omega
  · rw [Nat.mul_add] at below above tie
    split_ifs <;> omega

/-- The nearest natural number to a quotient, which stands between the halves around it. -/
theorem roundDiv_eq_of_quotient (positive : 0 < d) (below : (r - 1 / 2 : ℚ) ≤ n / d)
    (above : (n / d : ℚ) ≤ r + 1 / 2)
    (tie : (n / d : ℚ) = r - 1 / 2 ∨ (n / d : ℚ) = r + 1 / 2 → r % 2 = 0) : roundDiv n d = r := by
  have d_pos : (0 : ℚ) < d := by exact_mod_cast positive
  rw [le_div_iff₀ d_pos] at below
  rw [div_le_iff₀ d_pos] at above
  rw [div_eq_iff d_pos.ne', div_eq_iff d_pos.ne'] at tie
  apply roundDiv_eq positive
  · have : (2 * (d * r) : ℚ) ≤ 2 * n + d := by linarith
    exact_mod_cast this
  · have : (2 * n : ℚ) ≤ 2 * (d * r) + d := by linarith
    exact_mod_cast this
  · rintro (same | same)
    · have : (2 * (d * r) : ℚ) = 2 * n + d := by exact_mod_cast same
      exact tie (.inl (by linarith))
    · have : (2 * n : ℚ) = 2 * (d * r) + d := by exact_mod_cast same
      exact tie (.inr (by linarith))

/-! ## The exponent of the last place -/

theorem zpow_toNat_mul {a : ℚ} (h : a ≠ 0) (p : Int) : a ^ p * a ^ (-p).toNat = a ^ p.toNat := by
  rw [← zpow_natCast, ← zpow_natCast, ← zpow_add₀ h]
  congr 1
  omega

theorem scaled_eq (num : Nat) (positive : 0 < den) (s : Int) :
    0 < (scaled num den s).2 ∧
      ((scaled num den s).1 / (scaled num den s).2 : ℚ) = num / den / 2 ^ s := by
  have two : (2 : ℚ) ≠ 0 := by norm_num
  have den_ne : (den : ℚ) ≠ 0 := by positivity
  unfold scaled
  split_ifs with up
  · refine ⟨by rw [Nat.shiftLeft_eq]; positivity, ?_⟩
    have power : (2 : ℚ) ^ s = 2 ^ s.toNat := by
      rw [← zpow_natCast, Int.toNat_of_nonneg up]
    rw [Nat.shiftLeft_eq, power]
    push_cast
    rw [div_div]
  · refine ⟨positive, ?_⟩
    have power : (2 : ℚ) ^ s * 2 ^ (-s).toNat = 1 := by
      rw [zpow_toNat_mul two, Int.toNat_of_nonpos (by omega), pow_zero]
    rw [Nat.shiftLeft_eq]
    push_cast
    field_simp
    rw [mul_assoc, mul_comm ((2 : ℚ) ^ (-s).toNat), power, mul_one]

/-- Bounds of a natural number by its logarithm. -/
theorem zpow_log2_le (h : n ≠ 0) :
    (2 : ℚ) ^ (n.log2 : Int) ≤ n ∧ (n : ℚ) < 2 ^ ((n.log2 : Int) + 1) := by
  have bounds := (Nat.log2_eq_iff h).1 rfl
  constructor
  · rw [zpow_natCast]
    exact_mod_cast bounds.1
  · have power : (2 : ℚ) ^ ((n.log2 : Int) + 1) = 2 ^ (n.log2 + 1) := by
      rw [← zpow_natCast]
      norm_cast
    rw [power]
    exact_mod_cast bounds.2

/-- The exponent of the leading bit of a quotient, and the bits that are made with it. -/
theorem exists_ratioBits_eq (num_ne : num ≠ 0) (den_ne : den ≠ 0) :
    ∃ (top : Int) (n d : Nat), (2 : ℚ) ^ top ≤ num / den ∧ (num / den : ℚ) < 2 ^ (top + 1) ∧
      0 < d ∧ (n / d : ℚ) = num / den / 2 ^ (max (top - 52) (-1074)) ∧
      ratioBits num den =
        if ((max (top - 52) (-1074) + 1074).toNat <<< 52) + roundDiv n d ≥ 0x7FF0000000000000 then
          (0x7FF0000000000000 : UInt64)
        else (((max (top - 52) (-1074) + 1074).toNat <<< 52) + roundDiv n d).toUInt64 := by
  have two : (2 : ℚ) ≠ 0 := by norm_num
  have den_pos : (0 : ℚ) < den := by positivity
  obtain ⟨num_low, num_high⟩ := zpow_log2_le num_ne
  obtain ⟨den_low, den_high⟩ := zpow_log2_le den_ne
  obtain ⟨estimate, estimate_eq⟩ : ∃ e : Int, e = (num.log2 : Int) - den.log2 := ⟨_, rfl⟩
  obtain ⟨d_pos, quotient⟩ := scaled_eq num (Nat.pos_of_ne_zero den_ne) estimate
  have power_pos : (0 : ℚ) < 2 ^ estimate := by positivity
  have low : (2 : ℚ) ^ (estimate - 1) ≤ num / den := by
    rw [le_div_iff₀ den_pos]
    calc (2 : ℚ) ^ (estimate - 1) * den ≤ 2 ^ (estimate - 1) * 2 ^ ((den.log2 : Int) + 1) := by
          gcongr
      _ = 2 ^ (num.log2 : Int) := by rw [← zpow_add₀ two]; congr 1; omega
      _ ≤ num := num_low
  have high : (num / den : ℚ) < 2 ^ (estimate + 1) := by
    rw [div_lt_iff₀ den_pos]
    calc (num : ℚ) < 2 ^ ((num.log2 : Int) + 1) := num_high
      _ = 2 ^ (estimate + 1) * 2 ^ (den.log2 : Int) := by rw [← zpow_add₀ two]; congr 1; omega
      _ ≤ 2 ^ (estimate + 1) * den := by gcongr
  -- The logarithms leave two exponents, between which the comparison decides.
  have compare : (scaled num den estimate).1 < (scaled num den estimate).2 ↔
      (num / den : ℚ) < 2 ^ estimate := by
    rw [← Nat.cast_lt (α := ℚ), ← div_lt_one (by exact_mod_cast d_pos), quotient,
      div_lt_one power_pos]
  obtain ⟨top, top_eq⟩ : ∃ t, t = if (scaled num den estimate).1 < (scaled num den estimate).2 then
    estimate - 1 else estimate := ⟨_, rfl⟩
  obtain ⟨d_pos', quotient'⟩ :=
    scaled_eq num (Nat.pos_of_ne_zero den_ne) (max (top - 52) (-1074))
  refine ⟨top, _, _, ?_, ?_, d_pos', quotient', ?_⟩
  · rw [top_eq]
    split_ifs with less
    · exact low
    · exact not_lt.1 (mt compare.2 less)
  · rw [top_eq]
    split_ifs with less
    · rw [sub_add_cancel]
      exact compare.1 less
    · exact high
  · unfold ratioBits
    rw [if_neg num_ne, top_eq, estimate_eq]

theorem lt_of_zpow_lt {a b : Int} (h : (2 : ℚ) ^ a < 2 ^ b) : a < b :=
  (zpow_lt_zpow_iff_right₀ one_lt_two).1 h

theorem zpow_add_nat (q : Int) (k : Nat) : (2 : ℚ) ^ (q + k) = 2 ^ k * 2 ^ q := by
  rw [zpow_add₀ (by norm_num), zpow_natCast, mul_comm]

/-- The bits of a double with a significand and an exponent. -/
def sizeOf (m : Nat) (q : Int) : Nat := (q + 1074).toNat * 2 ^ 52 + m

/-- A quotient that rounds to a double has its bits. -/
theorem RoundsTo.ratioBits_eq (h : RoundsTo m q (num / den)) (canonical : IsSignificand m q)
    (num_ne : num ≠ 0) (den_ne : den ≠ 0) : ratioBits num den = (sizeOf m q).toUInt64 := by
  obtain ⟨top, n, d, low, high, d_pos, quotient, bits⟩ := exists_ratioBits_eq num_ne den_ne
  obtain ⟨below, above, tie, edge⟩ := h
  obtain ⟨small, q_low, q_high, normal⟩ := canonical
  rw [bits]
  generalize (num / den : ℚ) = v at *
  have unit_pos : (0 : ℚ) < 2 ^ q := by positivity
  have place := zpow_add_nat q 52
  by_cases inside : (2 : ℚ) ^ (q + 52) ≤ v ∨ q = -1074
  · have under : top < q + 53 := by
      apply lt_of_zpow_lt
      have m_le : (m : ℚ) + 1 ≤ 2 ^ 53 := by exact_mod_cast small
      calc (2 : ℚ) ^ top ≤ v := low
        _ ≤ (m + 1 / 2) * 2 ^ q := above
        _ < 2 ^ 53 * 2 ^ q := by gcongr; linarith
        _ = 2 ^ (q + 53) := (zpow_add_nat q 53).symm
    have unit : max (top - 52) (-1074) = q := by
      rcases inside with reached | least
      · have beyond : q + 52 < top + 1 := lt_of_zpow_lt (reached.trans_lt high)
        omega
      · omega
    rw [unit] at quotient ⊢
    have rounded : roundDiv n d = m := by
      apply roundDiv_eq_of_quotient d_pos
      · rwa [quotient, le_div_iff₀ unit_pos]
      · rwa [quotient, div_le_iff₀ unit_pos]
      · rwa [quotient, div_eq_iff unit_pos.ne', div_eq_iff unit_pos.ne']
    rw [rounded, Nat.shiftLeft_eq, if_neg (by omega)]
    rfl
  · -- Just below a power of two, where the units are half as large.
    obtain ⟨under, q_ne⟩ := not_or.1 inside
    have less : v < 2 ^ 52 * 2 ^ q := by
      rw [← zpow_add_nat]
      exact not_le.1 under
    have power : m = 2 ^ 52 := by
      have bound : (m - 1 / 2 : ℚ) < 2 ^ 52 :=
        lt_of_mul_lt_mul_right (below.trans_lt less) unit_pos.le
      have m_lt : (m : ℚ) < 2 ^ 52 + 1 := by linarith
      have m_lt' : m < 2 ^ 52 + 1 := by exact_mod_cast m_lt
      omega
    have near := edge power (by omega)
    have beyond : q + 51 < top + 1 := by
      apply lt_of_zpow_lt
      calc (2 : ℚ) ^ (q + 51) = 2 ^ 51 * 2 ^ q := zpow_add_nat q 51
        _ ≤ (m - 1 / 4) * 2 ^ q := by gcongr; rw [power]; norm_num
        _ ≤ v := near
        _ < 2 ^ (top + 1) := high
    have under' : top < q + 52 := lt_of_zpow_lt (low.trans_lt (not_le.1 under))
    have unit : max (top - 52) (-1074) = q - 1 := by omega
    have half : (2 : ℚ) ^ (q - 1) = 2 ^ q / 2 := zpow_sub_one₀ (by norm_num) q
    rw [unit] at quotient ⊢
    rw [half] at quotient
    rw [power] at near
    have rounded : roundDiv n d = 2 ^ 53 := by
      apply roundDiv_eq_of_quotient d_pos
      · rw [quotient, le_div_iff₀ (by positivity)]
        push_cast at near ⊢
        linarith
      · rw [quotient, div_le_iff₀ (by positivity)]
        push_cast
        linarith
      · exact fun _ => rfl
    have carried : (q - 1 + 1074).toNat * 2 ^ 52 + 2 ^ 53 = sizeOf m q := by
      unfold sizeOf
      omega
    rw [rounded, Nat.shiftLeft_eq, if_neg (by omega), carried]

/-! ## The double nearest to a decimal -/

/-- The doubles lie within the range of exponents beyond which decimals are not looked at. -/
theorem two_zpow_lt : (2 : ℚ) ^ (1024 : Int) < 10 ^ (310 : Int) ∧
    (10 : ℚ) ^ (-330 : Int) < 2 ^ (-1075 : Int) := by
  have two : (2 : ℚ) ≠ 0 := by norm_num
  have ten : (10 : ℚ) ≠ 0 := by norm_num
  have power : (2 : ℚ) ^ 93 < 10 ^ 28 := by norm_num
  have large (a : ℚ) (j k : Nat) : (a ^ j) ^ k = a ^ ((j * k : Nat) : Int) := by
    rw [zpow_natCast, pow_mul]
  have powers : (2 : ℚ) ^ (1023 : Int) < 10 ^ (308 : Int) := by
    have := pow_lt_pow_left₀ power (by norm_num) (show 11 ≠ 0 by norm_num)
    rwa [large, large] at this
  constructor
  · calc (2 : ℚ) ^ (1024 : Int) = 2 ^ (1023 : Int) * 2 := zpow_add_one₀ two 1023
      _ < 10 ^ (308 : Int) * 10 ^ (2 : Int) := by gcongr; norm_num
      _ = 10 ^ (310 : Int) := (zpow_add₀ ten 308 2).symm
  · rw [zpow_neg, zpow_neg]
    apply inv_strictAnti₀ (by positivity)
    calc (2 : ℚ) ^ (1075 : Int) = 2 ^ (1023 : Int) * 2 ^ (52 : Int) := zpow_add₀ two 1023 52
      _ < 10 ^ (308 : Int) * 10 ^ (22 : Int) := by gcongr; norm_num
      _ = 10 ^ (330 : Int) := (zpow_add₀ ten 308 22).symm

/-- A number that rounds to a double other than zero lies within the range of doubles. -/
theorem RoundsTo.bounds (h : RoundsTo m q v) (canonical : IsSignificand m q) (nonzero : m ≠ 0) :
    (2 : ℚ) ^ (-1075 : Int) ≤ v ∧ v ≤ 2 ^ (1024 : Int) := by
  have one_le : (1 : ℚ) ≤ m := by exact_mod_cast Nat.pos_of_ne_zero nonzero
  have m_le : (m : ℚ) + 1 ≤ 2 ^ 53 := by exact_mod_cast canonical.lt
  constructor
  · calc (2 : ℚ) ^ (-1075 : Int) = 2 ^ (-1074 : Int) / 2 := zpow_sub_one₀ (by norm_num) (-1074)
      _ ≤ 2 ^ q / 2 := by
          gcongr
          · norm_num
          · exact canonical.low
      _ ≤ (m - 1 / 2) * 2 ^ q := by
          have : (0 : ℚ) < 2 ^ q := by positivity
          nlinarith
      _ ≤ v := h.below
  · calc v ≤ (m + 1 / 2) * 2 ^ q := h.above
      _ ≤ 2 ^ 53 * 2 ^ (971 : Int) := by
          gcongr
          · linarith
          · norm_num
          · exact canonical.high
      _ = 2 ^ (1024 : Int) := (zpow_add_nat 971 53).symm

/-- A decimal lies between the powers of ten that its digits say. -/
theorem zpow_length_decimalDigits {k : Nat} (h : k ≠ 0) (e : Int) :
    (10 : ℚ) ^ ((decimalDigits k).length + e - 1) ≤ k * 10 ^ e ∧
      (k * 10 ^ e : ℚ) < 10 ^ ((decimalDigits k).length + e) := by
  have ten : (10 : ℚ) ≠ 0 := by norm_num
  have positive : 0 < (decimalDigits k).length := Nat.length_toDigits_pos
  obtain ⟨low, high⟩ := length_decimalDigits h
  constructor
  · have split : (10 : ℚ) ^ ((decimalDigits k).length + e - 1) =
        10 ^ ((decimalDigits k).length - 1) * 10 ^ e := by
      rw [← zpow_natCast, ← zpow_add₀ ten]
      congr 1
      omega
    rw [split]
    gcongr
    exact_mod_cast low
  · rw [zpow_add₀ ten, zpow_natCast]
    gcongr
    exact_mod_cast high

/-- The doubles are read from the decimals that round to them. -/
theorem RoundsTo.nearest_eq {k : Nat} {e : Int} (h : RoundsTo m q (k * 10 ^ e))
    (canonical : IsSignificand m q) (nonzero : m ≠ 0) :
    nearest k e = Float.ofBits (sizeOf m q).toUInt64 := by
  obtain ⟨above_least, below_greatest⟩ := h.bounds canonical nonzero
  have k_ne : k ≠ 0 := by
    rintro rfl
    rw [Nat.cast_zero, zero_mul] at above_least
    have : (0 : ℚ) < 2 ^ (-1075 : Int) := by positivity
    linarith
  obtain ⟨low, high⟩ := zpow_length_decimalDigits k_ne e
  have one_lt : (1 : ℚ) < 10 := by norm_num
  have not_large : ¬ ((decimalDigits k).length : Int) + e > 310 := by
    have less := (low.trans below_greatest).trans_lt two_zpow_lt.1
    have := (zpow_lt_zpow_iff_right₀ one_lt).1 less
    omega
  have not_small : ¬ ((decimalDigits k).length : Int) + e < -330 := by
    have less := two_zpow_lt.2.trans_le (above_least.trans high.le)
    have := (zpow_lt_zpow_iff_right₀ one_lt).1 less
    omega
  unfold nearest
  simp only [Nat.pow_eq]
  rw [if_neg k_ne, if_neg not_large, if_neg not_small]
  split_ifs with whole
  · have power : (10 : ℚ) ^ e = 10 ^ e.toNat := by
      rw [← zpow_natCast, Int.toNat_of_nonneg whole]
    have quotient : (((k * 10 ^ e.toNat : Nat) : ℚ) / (1 : Nat)) = k * 10 ^ e := by
      rw [power]
      push_cast
      rw [div_one]
    rw [RoundsTo.ratioBits_eq (quotient ▸ h) canonical (by positivity) (by norm_num)]
  · have power : (10 : ℚ) ^ e = (10 ^ (-e).toNat)⁻¹ := by
      rw [← zpow_natCast, Int.toNat_of_nonneg (by omega), zpow_neg, inv_inv]
    have quotient : ((k : ℚ) / ((10 ^ (-e).toNat : Nat) : ℚ)) = k * 10 ^ e := by
      rw [power]
      push_cast
      rw [div_eq_mul_inv]
    rw [RoundsTo.ratioBits_eq (quotient ▸ h) canonical k_ne (by positivity)]

end RequestKeys.Number
