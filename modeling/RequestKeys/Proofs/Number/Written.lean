import RequestKeys.Proofs.Number.Bits
import RequestKeys.Proofs.Number.Literal
import RequestKeys.Proofs.Number.Shortest

/-!
# Doubles are read as they are written

What a double is written as spells this double and no other, whatever its sign and its size
(`spells_plain`).
-/

namespace RequestKeys.Number

variable {size : Nat} {x : Float} {d : Decimal}

/-! ## Decimals with the point set -/

/-- A decimal with the point set spells a decimal of the same value. -/
theorem exists_spellsDecimal_positional (d : Decimal) :
    ∃ k e, SpellsDecimal (positional d) k e ∧ (k * 10 ^ e : ℚ) = d.value := by
  have ten : (10 : ℚ) ≠ 0 := by norm_num
  have digits := (isNumeral_decimalDigits d.digits).toIsDigits
  have value := digitsValue_decimalDigits d.digits
  have zero_isDigit {j : Nat} : ∀ c ∈ List.replicate j '0', isDigit c := fun c hc => by
    rw [List.eq_of_mem_replicate hc]
    rfl
  unfold positional
  dsimp only
  generalize decimalDigits d.digits = written at digits value
  split_ifs with whole inside
  · have all : IsDigits (written ++ List.replicate d.exponent.toNat '0') :=
      ⟨by simp [digits.ne_nil], fun c hc =>
        (List.mem_append.1 hc).elim (digits.isDigit c) (zero_isDigit c)⟩
    have spelled := SpellsDecimal.whole all .missing
    rw [List.append_nil] at spelled
    have power : (10 : ℚ) ^ d.exponent = 10 ^ d.exponent.toNat := by
      rw [← zpow_natCast, Int.toNat_of_nonneg whole]
    refine ⟨_, _, spelled, ?_⟩
    rw [digitsValue_append, digitsValue_zeros, value, List.length_replicate, Decimal.value, power]
    push_cast
    simp
  · have split := List.take_append_drop (written.length + d.exponent).toNat written
    have all : IsDigits (written.take (written.length + d.exponent).toNat ++
        written.drop (written.length + d.exponent).toNat) := by rwa [split]
    have spelled := SpellsDecimal.point all .missing
    rw [List.append_nil, split, value] at spelled
    refine ⟨_, _, spelled, ?_⟩
    rw [Decimal.value, List.length_drop]
    congr 2
    omega
  · have all : IsDigits
        (['0'] ++ (List.replicate (-(written.length + d.exponent)).toNat '0' ++ written)) :=
      ⟨by simp, fun c hc => by
        simp only [List.mem_append, List.mem_singleton] at hc
        rcases hc with rfl | zero | digit
        · rfl
        · exact zero_isDigit c zero
        · exact digits.isDigit c digit⟩
    have spelled := SpellsDecimal.point all .missing
    have zero : digitsValue 10 ['0'] = 0 := rfl
    rw [List.append_nil, digitsValue_append, digitsValue_append, digitsValue_zeros, zero, value,
      Nat.zero_mul, Nat.zero_mul, Nat.zero_add, Nat.zero_add] at spelled
    refine ⟨_, _, spelled, ?_⟩
    rw [Decimal.value, List.length_append, List.length_replicate]
    congr 2
    omega

/-- Without a point there is no needless zero. -/
theorem isNumeral_positional (nonzero : d.digits ≠ 0) (h : IsDigits (positional d)) :
    IsNumeral (positional d) := by
  have digits := isNumeral_decimalDigits d.digits
  have value := digitsValue_decimalDigits d.digits
  refine ⟨h, fun first => ?_⟩
  unfold positional at h first
  dsimp only at h first
  generalize decimalDigits d.digits = written at *
  split_ifs at h first
  · rw [List.head?_append_of_ne_nil _ digits.ne_nil] at first
    rw [digits.leading first] at value
    exact absurd value.symm nonzero
  · exact absurd (by simp) (h.not_mem (show isDigit '.' = false from rfl))
  · exact absurd (by simp) (h.not_mem (show isDigit '.' = false from rfl))

/-! ## The parts of a double -/

theorem isNegative_signed (negative : Bool) (h : size ≤ infiniteBits) :
    isNegative (signed negative size) = negative := by
  have bits := toNat_toBits_signed negative h
  have above : (signed negative size).toBits ≥ 0x8000000000000000 ↔ negative = true := by
    unfold infiniteBits at h
    rw [ge_iff_le, UInt64.le_iff_toNat_le, bits]
    cases negative with
    | false => simp; omega
    | true => simp
  exact Bool.eq_iff_iff.2 (decide_eq_true_iff.trans above)

/-- The exponent in the bits of a double. -/
theorem biased_signed (negative : Bool) (h : size ≤ infiniteBits) :
    ((signed negative size).toBits.toNat >>> 52) % 0x800 = size / 2 ^ 52 := by
  rw [toNat_toBits_signed negative h, Nat.shiftRight_eq_div_pow]
  unfold infiniteBits at h
  cases negative <;> simp <;> omega

theorem isFinite_signed (negative : Bool) (h : size ≤ infiniteBits) :
    isFinite (signed negative size) = true ↔ size ≠ infiniteBits := by
  unfold isFinite
  rw [biased_signed negative h, decide_eq_true_iff]
  unfold infiniteBits at h ⊢
  omega

/-- The significand and the exponent of a finite double are such that its bits are made of them. -/
theorem exists_significand_signed (negative : Bool) (h : size < infiniteBits) :
    ∃ m q, significand (signed negative size) = (m, q) ∧ IsSignificand m q ∧ sizeOf m q = size := by
  have bits := toNat_toBits_signed negative h.le
  have fraction : (signed negative size).toBits.toNat % (1 <<< 52) = size % 2 ^ 52 := by
    rw [bits]
    cases negative
    · simp
    · simp
      omega
  have biased := biased_signed negative h.le
  unfold infiniteBits at h
  unfold significand
  simp only [fraction, biased]
  split_ifs with subnormal
  · refine ⟨_, _, rfl, ⟨by omega, by omega, by omega, .inr rfl⟩, ?_⟩
    unfold sizeOf
    omega
  · refine ⟨_, _, rfl, ⟨by omega, by omega, by omega, .inl (by omega)⟩, ?_⟩
    unfold sizeOf
    omega

/-! ## Reading back -/

/-- What is written of a double: a sign, if there is one, and behind it what spells its size, with
no needless zero if this has neither a point nor letters. -/
theorem exists_plain_signed (negative : Bool) (h : size ≤ infiniteBits)
    (number : (signed negative size).isNaN = false) :
    ∃ body, plain (signed negative size) = (if negative then ['-'] else []) ++ body ∧
      SpellsSize body (signed false size) ∧ (IsDigits body → IsNumeral body) := by
  unfold plain
  rw [isNegative_signed negative h, number]
  by_cases infinite : size = infiniteBits
  · have not_finite : isFinite (signed negative size) = false :=
      Bool.eq_false_iff.2 fun finite => (isFinite_signed negative h).1 finite infinite
    rw [not_finite, infinite]
    refine ⟨['i', 'n', 'f'], rfl, .infinite (.inl rfl), fun digits => ?_⟩
    exact absurd List.mem_cons_self (digits.not_mem (show isDigit 'i' = false from rfl))
  · have finite := (isFinite_signed negative h).2 infinite
    obtain ⟨m, q, parts, canonical, rfl⟩ :=
      exists_significand_signed negative (by omega : size < infiniteBits)
    rw [finite, parts]
    by_cases zero : m = 0
    · subst zero
      have least : q = -1074 := by
        have := canonical.normal
        omega
      have digit : IsDigits ['0'] := ⟨List.cons_ne_nil _ _, List.forall_mem_singleton.2 rfl⟩
      have spelled : SpellsSize ['0'] (nearest 0 0) := .finite (.whole digit .missing)
      have same : nearest 0 0 = signed false (sizeOf 0 (-1074)) := eq_of_toBits_eq rfl
      rw [least, ← same]
      exact ⟨['0'], rfl, spelled, fun digits => ⟨digits, fun _ => rfl⟩⟩
    · obtain ⟨rounds, nonzero⟩ := roundsTo_shortest canonical (Nat.pos_of_ne_zero zero)
      obtain ⟨k, e, decimal, value⟩ := exists_spellsDecimal_positional (shortest m q)
      have spelled := SpellsSize.finite decimal
      rw [← value] at rounds
      rw [rounds.nearest_eq canonical zero] at spelled
      refine ⟨positional (shortest m q), ?_, spelled, isNumeral_positional nonzero⟩
      simp [zero]

/-- What a double is written as spells it, and behind its sign has no needless zero. -/
theorem exists_plain (x : Float) :
    ∃ (negative : Bool) (body : List Char), plain x = (if negative then ['-'] else []) ++ body ∧
      (∃ size, SpellsSize body size ∧ x = if negative then -size else size) ∧
      (IsDigits body → IsNumeral body) := by
  cases number : x.isNaN with
  | true =>
    have written : plain x = ['N', 'a', 'N'] := by
      unfold plain
      rw [number]
      rfl
    refine ⟨false, _, written, ⟨_, .undefined rfl, eq_of_isNaN number⟩, fun digits => ?_⟩
    exact absurd List.mem_cons_self (digits.not_mem (show isDigit 'N' = false from rfl))
  | false =>
    obtain ⟨negative, size, small, rfl⟩ := exists_eq_signed number
    obtain ⟨body, written, spelled, numeral⟩ := exists_plain_signed negative small number
    exact ⟨negative, body, written, ⟨_, spelled, by cases negative <;> rfl⟩, numeral⟩

/-- A double is spelled by what it is written as. -/
theorem spells_plain (x : Float) : Signed SpellsSize (plain x) x := by
  obtain ⟨negative, body, written, ⟨size, spelled, rfl⟩, -⟩ := exists_plain x
  rw [written]
  cases negative with
  | false => exact .bare spelled
  | true => exact .minus spelled

/-- A double that is written as an integer is written as that integer is, but for the negative
zero. -/
theorem isInteger_plain {n : Int} (h : Signed SpellsNatural (plain x) n)
    (signed : plain x ≠ ['-', '0']) : IsInteger (plain x) := by
  obtain ⟨negative, body, written, ⟨size, spelled, -⟩, numeral⟩ := exists_plain x
  rw [written] at h signed ⊢
  cases negative with
  | false =>
    rw [if_neg Bool.false_ne_true, List.nil_append] at h ⊢
    cases h with
    | bare natural =>
      obtain ⟨digits⟩ := natural
      exact .natural (numeral digits)
    | plus => exact absurd rfl (spelled.head?_ne (.inl rfl))
    | minus => exact absurd rfl (spelled.head?_ne (.inr rfl))
  | true =>
    rw [if_pos rfl, List.singleton_append] at h signed ⊢
    cases h with
    | bare natural =>
      obtain ⟨digits⟩ := natural
      exact absurd List.mem_cons_self (digits.not_mem (show isDigit '-' = false from rfl))
    | minus natural =>
      obtain ⟨digits⟩ := natural
      exact .negative (numeral digits) fun zero => signed (by rw [zero])

end RequestKeys.Number
