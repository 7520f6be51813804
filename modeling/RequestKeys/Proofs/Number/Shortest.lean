import Mathlib.Data.Nat.Cast.Order.Field
import Mathlib.Tactic.Ring
import RequestKeys.Number.Shortest
import RequestKeys.Proofs.Number.Rounding

/-!
# The shortest decimal of a double

The search for a decimal with few digits ends: among the decimals with eighteen digits there is one
that rounds to the double, so that the decimal which is found rounds to it (`roundsTo_shortest`).
-/

namespace RequestKeys.Number

variable {m k : Nat} {q p top : Int} {b : Basin} {g : Grid} {v : ℚ} {d : Decimal}

/-! ## Basins and grids -/

/-- The number that a decimal stands for. -/
def Decimal.value (d : Decimal) : ℚ := d.digits * 10 ^ d.exponent

/-- A number lies in a basin. -/
def Basin.Holds (b : Basin) (v : ℚ) : Prop :=
  if b.closed then b.low * 2 ^ b.unit ≤ v ∧ v ≤ b.high * 2 ^ b.unit
  else b.low * 2 ^ b.unit < v ∧ v < b.high * 2 ^ b.unit

/-- A grid is its basin in other units: those of the basin and of the decimals are scaled alike. -/
theorem Basin.exists_scale (b : Basin) (p : Int) :
    ∃ (scale : Nat) (factor : ℚ), 0 < factor ∧ (scale : ℚ) = 2 ^ b.unit * factor ∧
      ((b.grid p).step : ℚ) = 10 ^ p * factor ∧ (b.grid p).low = b.low * scale ∧
      (b.grid p).middle = b.middle * scale ∧ (b.grid p).high = b.high * scale := by
  refine ⟨Nat.pow 10 (-p).toNat <<< b.unit.toNat, 10 ^ (-p).toNat * 2 ^ (-b.unit).toNat,
    by positivity, ?_, ?_, rfl, rfl, rfl⟩
  · rw [Nat.shiftLeft_eq, Nat.pow_eq]
    push_cast
    rw [← zpow_toNat_mul (by norm_num) b.unit]
    ring
  · show ((Nat.pow 10 p.toNat <<< (-b.unit).toNat : Nat) : ℚ) = _
    rw [Nat.shiftLeft_eq, Nat.pow_eq]
    push_cast
    rw [← zpow_toNat_mul (by norm_num) p]
    ring

theorem Basin.holds_grid_iff : (b.grid p).holds k ↔ b.Holds (k * 10 ^ p) := by
  obtain ⟨scale, factor, positive, scale_eq, step_eq, low, -, high⟩ := b.exists_scale p
  have point : ((k * (b.grid p).step : Nat) : ℚ) = k * 10 ^ p * factor := by
    push_cast
    rw [step_eq, mul_assoc]
  have edge (n : Nat) : ((n * scale : Nat) : ℚ) = n * 2 ^ b.unit * factor := by
    push_cast
    rw [scale_eq, mul_assoc]
  have closed : (b.grid p).closed = b.closed := rfl
  unfold Grid.holds Holds
  simp only [low, high, closed]
  split_ifs
  · rw [Bool.and_eq_true, decide_eq_true_iff, decide_eq_true_iff, ← Nat.cast_le (α := ℚ),
      ← Nat.cast_le (α := ℚ), point, edge, edge, mul_le_mul_iff_left₀ positive,
      mul_le_mul_iff_left₀ positive]
  · rw [Bool.and_eq_true, decide_eq_true_iff, decide_eq_true_iff, ← Nat.cast_lt (α := ℚ),
      ← Nat.cast_lt (α := ℚ), point, edge, edge, mul_lt_mul_iff_left₀ positive,
      mul_lt_mul_iff_left₀ positive]

theorem Grid.holds_of_hit (h : g.hit = some k) : g.holds k ∧ k ≠ 0 := by
  unfold hit at h
  dsimp only at h
  split at h
  · next below above =>
    split_ifs at h
    · obtain rfl := Option.some.inj h
      simpa using below
    · obtain rfl := Option.some.inj h
      exact ⟨above, Nat.succ_ne_zero _⟩
  · next below _ =>
    obtain rfl := Option.some.inj h
    simpa using below
  · next _ above =>
    obtain rfl := Option.some.inj h
    exact ⟨above, Nat.succ_ne_zero _⟩
  · cases h

/-- A step that is shorter than the upper half of a basin hits it. -/
theorem Grid.exists_hit (step_pos : 0 < g.step) (low : g.low ≤ g.middle)
    (high : g.middle + g.step < g.high) : ∃ k, g.hit = some k := by
  have division := Nat.div_add_mod' g.middle g.step
  have small := Nat.mod_lt g.middle step_pos
  have next : (g.middle / g.step + 1) * g.step = g.middle / g.step * g.step + g.step :=
    Nat.succ_mul _ _
  have above : g.holds (g.middle / g.step + 1) = true := by
    unfold holds
    dsimp only
    rw [next]
    split_ifs <;> rw [Bool.and_eq_true, decide_eq_true_iff, decide_eq_true_iff] <;> omega
  unfold hit
  dsimp only
  rw [above]
  split
  · exact ⟨_, rfl⟩
  · exact ⟨_, rfl⟩
  · exact ⟨_, rfl⟩
  · next absurd_above => cases absurd_above

/-! ## The search -/

/-- The decimal that is found lies in the basin, if there is one to be found. -/
theorem holds_search {fuel count found : Nat} (reached : count ≤ found)
    (left : found < count + fuel) (h : ∃ k, (b.grid (top - found + 1)).hit = some k) :
    b.Holds (search b top fuel count).value ∧ (search b top fuel count).digits ≠ 0 := by
  induction fuel generalizing count with
  | zero => omega
  | succ fuel ih =>
    unfold search
    dsimp only
    split
    · next k hit =>
      obtain ⟨held, nonzero⟩ := Grid.holds_of_hit hit
      exact ⟨Basin.holds_grid_iff.1 held, nonzero⟩
    · next miss =>
      have later : count ≠ found := by
        rintro rfl
        obtain ⟨k, hit⟩ := h
        rw [miss] at hit
        cases hit
      exact ih (by omega) (by omega)

/-- The zeros at the end of a decimal make no difference. -/
theorem trimZeros_spec (fuel : Nat) (d : Decimal) :
    (trimZeros fuel d).value = d.value ∧ (d.digits ≠ 0 → (trimZeros fuel d).digits ≠ 0) := by
  induction fuel generalizing d with
  | zero => exact ⟨rfl, id⟩
  | succ fuel ih =>
    unfold trimZeros
    split_ifs with trailing
    · obtain ⟨value, nonzero⟩ := ih ⟨d.digits / 10, d.exponent + 1⟩
      refine ⟨value.trans ?_, fun _ => nonzero ?_⟩
      · have tenfold : (d.digits : ℚ) = ((d.digits / 10 : Nat) : ℚ) * 10 := by
          exact_mod_cast (Nat.div_mul_cancel (Nat.dvd_of_mod_eq_zero trailing.1)).symm
        unfold Decimal.value
        rw [zpow_add_one₀ (by norm_num), tenfold]
        dsimp only
        ring
      · dsimp only
        omega
    · exact ⟨rfl, id⟩

/-! ## Enough digits -/

/-- In units of a small power of ten, a double has a digit before the point. -/
theorem one_le_mul_pow (positive : 0 < m) (low : -1074 ≤ q) {zeros : Nat} (many : 330 ≤ zeros) :
    (1 : ℚ) ≤ m * 2 ^ q * 10 ^ zeros := by
  have one_le : (1 : ℚ) ≤ m := by exact_mod_cast positive
  calc (1 : ℚ) ≤ 10 ^ ((-330 : Int) + zeros) := one_le_zpow₀ (by norm_num) (by omega)
    _ = 10 ^ (-330 : Int) * 10 ^ zeros := by rw [zpow_add₀ (by norm_num), zpow_natCast]
    _ ≤ 2 ^ (-1075 : Int) * 10 ^ zeros := by gcongr; exact two_zpow_lt.2.le
    _ ≤ 1 * 2 ^ q * 10 ^ zeros := by rw [one_mul]; gcongr <;> [norm_num; omega]
    _ ≤ m * 2 ^ q * 10 ^ zeros := by gcongr

theorem zpow_leadingExponent_le (positive : 0 < m) (low : -1074 ≤ q) :
    (10 : ℚ) ^ leadingExponent m q ≤ m * 2 ^ q := by
  obtain ⟨zeros, zeros_eq⟩ : ∃ zeros, zeros = 400 := ⟨_, rfl⟩
  obtain ⟨den, den_eq⟩ : ∃ den, den = 2 ^ (-q).toNat := ⟨_, rfl⟩
  obtain ⟨num, num_eq⟩ : ∃ num, num = m * 2 ^ q.toNat * 10 ^ zeros := ⟨_, rfl⟩
  have top_eq : leadingExponent m q = (decimalDigits (num / den)).length + -(zeros : Int) - 1 := by
    unfold leadingExponent
    simp only [Nat.shiftLeft_eq, Nat.shiftRight_eq_div_pow, Nat.pow_eq, num_eq, den_eq, ← zeros_eq]
    omega
  have den_pos : (0 : ℚ) < den := by rw [den_eq]; positivity
  have ratio : (num : ℚ) = m * 2 ^ q * 10 ^ zeros * den := by
    rw [num_eq, den_eq]
    push_cast
    rw [← zpow_toNat_mul (by norm_num) q]
    ring
  have nonzero : num / den ≠ 0 := by
    have den_le : (den : ℚ) ≤ num := by
      rw [ratio]
      exact le_mul_of_one_le_left den_pos.le (one_le_mul_pow positive low (by omega))
    have den_le' : den ≤ num := by exact_mod_cast den_le
    exact (Nat.div_pos den_le' (by exact_mod_cast den_pos)).ne'
  rw [top_eq]
  calc (10 : ℚ) ^ ((decimalDigits (num / den)).length + -(zeros : Int) - 1)
      ≤ ((num / den : Nat) : ℚ) * 10 ^ (-(zeros : Int)) :=
        (zpow_length_decimalDigits nonzero _).1
    _ ≤ num / den * 10 ^ (-(zeros : Int)) := by gcongr; exact Nat.cast_div_le
    _ = m * 2 ^ q := by
        rw [ratio, mul_div_cancel_right₀ _ den_pos.ne', zpow_neg, zpow_natCast]
        field_simp

/-- A basin reaches half a unit in the last place above its middle. -/
theorem middle_add_two (m : Nat) (q : Int) : (Basin.of m q).middle + 2 = (Basin.of m q).high := rfl

/-- Among the decimals with eighteen digits there is one in the basin. -/
theorem exists_hit_of_eighteen (canonical : IsSignificand m q) (positive : 0 < m) :
    ∃ k, ((Basin.of m q).grid (leadingExponent m q - 18 + 1)).hit = some k := by
  obtain ⟨scale, factor, factor_pos, scale_eq, step_eq, low, middle, high⟩ :=
    (Basin.of m q).exists_scale (leadingExponent m q - 18 + 1)
  have m_le : (m : ℚ) ≤ 2 ^ 53 := by exact_mod_cast canonical.lt.le
  have unit_pos : (0 : ℚ) < 2 ^ q := by positivity
  have step_lt : ((Basin.of m q).grid (leadingExponent m q - 18 + 1)).step < 2 * scale := by
    rw [← Nat.cast_lt (α := ℚ), step_eq]
    push_cast
    rw [scale_eq, ← mul_assoc]
    gcongr
    have unit_eq : (2 : ℚ) ^ (Basin.of m q).unit = 2 ^ q / 4 := by
      show (2 : ℚ) ^ (q - 2) = _
      rw [zpow_sub₀ (by norm_num)]
      norm_num
    have top := zpow_leadingExponent_le positive canonical.low
    have power : (10 : ℚ) ^ (leadingExponent m q - 18 + 1) =
        10 ^ leadingExponent m q / 10 ^ 17 := by
      rw [show leadingExponent m q - 18 + 1 = leadingExponent m q - 17 by omega,
        zpow_sub₀ (by norm_num)]
      rfl
    rw [unit_eq, power]
    calc (10 : ℚ) ^ leadingExponent m q / 10 ^ 17 ≤ 2 ^ 53 * 2 ^ q / 10 ^ 17 := by
          gcongr
          exact top.trans (by gcongr)
      _ = 2 ^ 53 / 10 ^ 17 * 2 ^ q := by ring
      _ < 1 / 2 * 2 ^ q := mul_lt_mul_of_pos_right (by norm_num) unit_pos
      _ = 2 * (2 ^ q / 4) := by ring
  apply Grid.exists_hit
  · rw [← Nat.cast_lt (α := ℚ), step_eq]
    push_cast
    positivity
  · rw [low, middle]
    apply Nat.mul_le_mul_right
    simp only [Basin.of]
    split_ifs <;> omega
  · rw [middle, high, ← middle_add_two, Nat.add_mul]
    omega

/-! ## Rounding back -/

theorem Basin.of_low (positive : 0 < m) :
    (4 * ((m : ℚ) - 1 / 2) ≤ ((Basin.of m q).low : ℚ)) ∧
      (m = 2 ^ 52 → -1074 < q → 4 * ((m : ℚ) - 1 / 4) = ((Basin.of m q).low : ℚ)) := by
  have low : (Basin.of m q).low = if m = 2 ^ 52 ∧ q > -1074 then 4 * m - 1 else 4 * m - 2 := rfl
  rw [low]
  split_ifs with edge
  · rw [Nat.cast_sub (by omega)]
    push_cast
    exact ⟨by linarith, fun _ _ => by ring⟩
  · rw [Nat.cast_sub (by omega)]
    push_cast
    exact ⟨by linarith, fun power above => absurd ⟨power, above⟩ edge⟩

theorem Basin.of_high : ((Basin.of m q).high : ℚ) = 4 * ((m : ℚ) + 1 / 2) := by
  show ((4 * m + 2 : Nat) : ℚ) = _
  push_cast
  ring

/-- The numbers in the basin of a double round to it. -/
theorem Basin.Holds.roundsTo (h : (Basin.of m q).Holds v) (positive : 0 < m) : RoundsTo m q v := by
  have unit_pos : (0 : ℚ) < 2 ^ q := by positivity
  have unit_eq : (2 : ℚ) ^ (Basin.of m q).unit = 2 ^ q / 4 := by
    show (2 : ℚ) ^ (q - 2) = _
    rw [zpow_sub₀ (by norm_num)]
    norm_num
  have closed : (Basin.of m q).closed = (m % 2 == 0) := rfl
  obtain ⟨low_le, low_edge⟩ := Basin.of_low (q := q) positive
  unfold Basin.Holds at h
  rw [unit_eq, closed, Basin.of_high] at h
  generalize ((Basin.of m q).low : ℚ) = low at h low_le low_edge
  have low_le' : ((m : ℚ) - 1 / 2) * 2 ^ q ≤ low * (2 ^ q / 4) := by nlinarith
  have weak : low * (2 ^ q / 4) ≤ v ∧ v ≤ 4 * ((m : ℚ) + 1 / 2) * (2 ^ q / 4) := by
    split_ifs at h
    · exact h
    · exact ⟨h.1.le, h.2.le⟩
  refine ⟨low_le'.trans weak.1, by linarith [weak.2], fun edge => ?_, fun power above => ?_⟩
  · by_contra odd
    rw [if_neg (by simpa using odd)] at h
    rcases edge with same | same <;> linarith [h.1, h.2]
  · rw [← low_edge power above] at weak
    linarith [weak.1]

/-- The shortest decimal of a double rounds to it. -/
theorem roundsTo_shortest (canonical : IsSignificand m q) (positive : 0 < m) :
    RoundsTo m q (shortest m q).value ∧ (shortest m q).digits ≠ 0 := by
  obtain ⟨held, nonzero⟩ := holds_search (show 1 ≤ 18 by omega) (show 18 < 1 + 18 by omega)
    (exists_hit_of_eighteen canonical positive)
  obtain ⟨value, digits⟩ := trimZeros_spec 20 (search (.of m q) (leadingExponent m q) 18 1)
  exact ⟨value ▸ held.roundsTo positive, digits nonzero⟩

end RequestKeys.Number
