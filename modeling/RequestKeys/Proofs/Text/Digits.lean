import Mathlib.Algebra.Ring.Nat
import Mathlib.Data.List.Basic
import Mathlib.Data.List.Induction
import RequestKeys.Text.Hex

/-!
# Decimal digits

The decimal digits of a number have its value and no needless zero in front
(`digitsValue_decimalDigits`, `isNumeral_decimalDigits`), and no other digits are so
(`IsNumeral.decimalDigits_digitsValue`).
-/

namespace RequestKeys

variable {c : Char} {n : Nat} {digits : List Char}

/-! ## The digits of a number -/

theorem isDigit_iff : isDigit c ↔ '0' ≤ c ∧ c ≤ '9' := by
  rw [isDigit, Bool.and_eq_true, decide_eq_true_iff, decide_eq_true_iff]

theorem isDigit_of_isDigit (h : c.isDigit = true) :
    isDigit c = true ∧ (hexValue? c).getD 0 = c.toNat - '0'.toNat := by
  have bounds : 48 ≤ c.toNat ∧ c.toNat ≤ 57 := by
    simpa [Char.isDigit, UInt32.le_iff_toNat_le] using h
  have digit : '0' ≤ c ∧ c ≤ '9' := by
    simpa only [Char.le_def, UInt32.le_iff_toNat_le, Char.toNat_val, Char.reduceToNat] using bounds
  rw [hexValue?, if_pos digit]
  simp [isDigit, digit]

theorem isDigit_of_mem_decimalDigits (h : c ∈ decimalDigits n) : c.isDigit = true :=
  Nat.isDigit_of_mem_toDigits (by decide) (by decide) h

theorem digitsValue_decimalDigits (n : Nat) : digitsValue 10 (decimalDigits n) = n := by
  have value {digits : List Char} (h : ∀ c ∈ digits, c.isDigit = true) (start : Nat) :
      digits.foldl (fun acc c => acc * 10 + (hexValue? c).getD 0) start =
        Nat.ofDigitChars 10 digits start := by
    induction digits generalizing start with
    | nil => rfl
    | cons c rest ih =>
      rw [List.foldl_cons, Nat.ofDigitChars_cons, ih fun x hx => h x (List.mem_cons_of_mem _ hx),
        (isDigit_of_isDigit (h c List.mem_cons_self)).2, Nat.mul_comm]
  rw [digitsValue, value fun c hc => isDigit_of_mem_decimalDigits hc]
  exact Nat.ofDigitChars_toDigits (by decide) (by decide)

/-- A number has as many digits as the powers of ten around it say. -/
theorem length_decimalDigits (h : n ≠ 0) :
    10 ^ ((decimalDigits n).length - 1) ≤ n ∧ n < 10 ^ (decimalDigits n).length := by
  have positive : 0 < (decimalDigits n).length := Nat.length_toDigits_pos
  constructor
  · by_cases single : (decimalDigits n).length = 1
    · rw [single]
      omega
    · apply Nat.le_of_not_lt
      intro less
      have shorter := (Nat.length_toDigits_le_iff (by decide) (by omega)).2 less
      unfold decimalDigits at positive shorter
      omega
  · exact (Nat.length_toDigits_le_iff (by decide) positive).1 (Nat.le_refl _)

/-! ## Numerals -/

/-- One or more decimal digits. -/
structure IsDigits (digits : List Char) : Prop where
  ne_nil : digits ≠ []
  isDigit : ∀ c ∈ digits, isDigit c

/-- Decimal digits without a zero in front, but for the zero itself. -/
structure IsNumeral (digits : List Char) : Prop extends IsDigits digits where
  leading : digits.head? = some '0' → digits = ['0']

/-- No sign, point or letter is among digits. -/
theorem IsDigits.not_mem (h : IsDigits digits) (other : RequestKeys.isDigit c = false) :
    c ∉ digits := by
  intro found
  have digit := h.isDigit c found
  rw [other] at digit
  cases digit

theorem IsDigits.head?_ne (h : IsDigits digits) (other : RequestKeys.isDigit c = false) :
    digits.head? ≠ some c :=
  fun first => h.not_mem other (List.mem_of_head? first)

theorem digitsValue_concat (digits : List Char) (c : Char) :
    digitsValue 10 (digits ++ [c]) = 10 * digitsValue 10 digits + digitsValue 10 [c] := by
  simp only [digitsValue, List.foldl_append, List.foldl_cons, List.foldl_nil]
  omega

theorem digitsValue_append (front back : List Char) :
    digitsValue 10 (front ++ back) =
      digitsValue 10 front * 10 ^ back.length + digitsValue 10 back := by
  induction back using List.reverseRecOn with
  | nil => simp [digitsValue]
  | append_singleton back c ih =>
    rw [← List.append_assoc, digitsValue_concat, ih, digitsValue_concat, List.length_append,
      List.length_singleton, Nat.pow_succ]
    generalize 10 ^ back.length = power
    rw [← Nat.mul_assoc]
    omega

theorem digitsValue_zeros (k : Nat) : digitsValue 10 (List.replicate k '0') = 0 := by
  induction k with
  | zero => rfl
  | succ k ih =>
    rw [List.replicate_succ', digitsValue_concat, ih]
    rfl

theorem digitsValue_singleton (h : isDigit c) :
    digitsValue 10 [c] < 10 ∧ decimalDigits (digitsValue 10 [c]) = [c] := by
  have bounds : 48 ≤ c.toNat ∧ c.toNat ≤ 57 := by
    have h := isDigit_iff.1 h
    simpa only [Char.le_def, UInt32.le_iff_toNat_le, Char.toNat_val, Char.reduceToNat] using h
  have value : digitsValue 10 [c] = c.toNat - 48 := by
    simp [digitsValue, hexValue?, isDigit_iff.1 h]
  have small : digitsValue 10 [c] < 10 := by omega
  refine ⟨small, ?_⟩
  have chars : ∀ k < 10, Nat.digitChar k = Char.ofNat (48 + k) := by decide
  rw [decimalDigits, Nat.toDigits_of_lt_base small, chars _ small, value,
    Nat.add_sub_cancel' bounds.1, Char.ofNat_toNat]

theorem decimalDigits_append (positive : 0 < n) {d : Nat} (small : d < 10) :
    decimalDigits (10 * n + d) = decimalDigits n ++ decimalDigits d :=
  (Nat.toDigits_append_toDigits (by decide) positive small).symm

/-- A numeral is what the digits of its value are. -/
theorem IsNumeral.decimalDigits_digitsValue (h : IsNumeral digits) :
    decimalDigits (digitsValue 10 digits) = digits := by
  -- On the digits from the right: those before the last are a numeral whose value is not zero.
  induction digits using List.reverseRecOn with
  | nil => exact absurd rfl h.ne_nil
  | append_singleton front c ih =>
    have last := digitsValue_singleton (h.isDigit c (by simp))
    by_cases alone : front = []
    · subst alone
      exact last.2
    · have head : (front ++ [c]).head? = front.head? := List.head?_append_of_ne_nil _ alone
      have nonzero : front.head? ≠ some '0' := fun zero => by
        have short := congrArg List.length (h.leading (head.trans zero))
        rw [List.length_append, List.length_singleton, List.length_singleton] at short
        exact alone (List.eq_nil_of_length_eq_zero (by omega))
      have numeral : IsNumeral front :=
        ⟨⟨alone, fun d hd => h.isDigit d (List.mem_append_left _ hd)⟩,
          fun zero => absurd zero nonzero⟩
      have same := ih numeral
      have positive : 0 < digitsValue 10 front := by
        apply Nat.pos_of_ne_zero
        intro zero
        rw [zero] at same
        exact nonzero (same ▸ rfl)
      rw [digitsValue_concat, decimalDigits_append positive last.1, same, last.2]

theorem isNumeral_decimalDigits (n : Nat) : IsNumeral (decimalDigits n) := by
  refine ⟨⟨Nat.toDigits_ne_nil, fun c hc =>
    (isDigit_of_isDigit (isDigit_of_mem_decimalDigits hc)).1⟩, ?_⟩
  -- On the number: its digits begin like those of a tenth of it.
  induction n using Nat.strongRecOn with
  | ind n ih =>
    by_cases small : n < 10
    · intro zero
      have single : decimalDigits n = [n.digitChar] := Nat.toDigits_of_lt_base small
      rw [single] at zero ⊢
      rw [Option.some.inj zero]
    · have split : decimalDigits n = decimalDigits (n / 10) ++ decimalDigits (n % 10) := by
        rw [← decimalDigits_append (by omega) (Nat.mod_lt _ (by decide)), Nat.div_add_mod]
      intro zero
      have nonempty : decimalDigits (n / 10) ≠ [] := Nat.toDigits_ne_nil
      rw [split, List.head?_append_of_ne_nil _ nonempty] at zero
      have value := digitsValue_decimalDigits (n / 10)
      rw [ih (n / 10) (by omega) zero] at value
      have nothing : digitsValue 10 ['0'] = 0 := rfl
      omega

end RequestKeys
