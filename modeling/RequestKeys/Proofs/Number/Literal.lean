import RequestKeys.Json.Value
import RequestKeys.Number.Written
import RequestKeys.Proofs.Text.Digits

/-!
# Numbers that texts spell

The readers of numbers accept the texts of a grammar and no others: an integer is decimal digits, a
double one of three words or a decimal with a point or an exponent, and either may have a sign
(`readInt?_eq_some_iff`, `readFloat?_eq_some_iff`).  An integer is written back as the text that
spelled it if this had no needless sign and no needless zero (`writeInt_eq_iff`).
-/

namespace RequestKeys.Number

variable {text digits whole fraction tail : List Char} {m : Nat} {n e : Int} {x : Float}

/-! ## The grammar -/

/-- A sign put before what a text spells, or none. -/
inductive Signed {α : Type} [Neg α] (Spells : List Char → α → Prop) : List Char → α → Prop
  | bare {text : List Char} {x : α} (h : Spells text x) : Signed Spells text x
  | plus {text : List Char} {x : α} (h : Spells text x) : Signed Spells ('+' :: text) x
  | minus {text : List Char} {x : α} (h : Spells text x) : Signed Spells ('-' :: text) (-x)

/-- Digits spell a natural number. -/
inductive SpellsNatural : List Char → Int → Prop
  | digits {digits : List Char} (h : IsDigits digits) : SpellsNatural digits (digitsValue 10 digits)

/-- An exponent part, which may be missing. -/
inductive SpellsExponent : List Char → Int → Prop
  | missing : SpellsExponent [] 0
  | given {c : Char} {text : List Char} {e : Int} (mark : c = 'e' ∨ c = 'E')
    (h : Signed SpellsNatural text e) : SpellsExponent (c :: text) e

/-- A text spells the decimal `m · 10^e`.  The point may be first or last, but not alone. -/
inductive SpellsDecimal : List Char → Nat → Int → Prop
  | whole {digits tail : List Char} {e : Int} (h : IsDigits digits)
    (exponent : SpellsExponent tail e) : SpellsDecimal (digits ++ tail) (digitsValue 10 digits) e
  | point {whole fraction tail : List Char} {e : Int} (h : IsDigits (whole ++ fraction))
    (exponent : SpellsExponent tail e) :
    SpellsDecimal (whole ++ '.' :: (fraction ++ tail)) (digitsValue 10 (whole ++ fraction))
      (e - fraction.length)

/-- A text spells a double without a sign. -/
inductive SpellsSize : List Char → Float → Prop
  | infinite {text : List Char} (h : smallLetters text = ['i', 'n', 'f'] ∨
      smallLetters text = ['i', 'n', 'f', 'i', 'n', 'i', 't', 'y']) :
    SpellsSize text (Float.ofBits 0x7FF0000000000000)
  | undefined {text : List Char} (h : smallLetters text = ['n', 'a', 'n']) :
    SpellsSize text (Float.ofBits 0x7FF8000000000000)
  | finite {text : List Char} {m : Nat} {e : Int} (h : SpellsDecimal text m e) :
    SpellsSize text (nearest m e)

/-! ## Signs -/

theorem readSign_plus (text : List Char) : readSign ('+' :: text) = (false, text) := rfl

theorem readSign_minus (text : List Char) : readSign ('-' :: text) = (true, text) := rfl

theorem readSign_of_head? (plus : text.head? ≠ some '+') (minus : text.head? ≠ some '-') :
    readSign text = (false, text) := by
  unfold readSign
  split
  · exact absurd rfl plus
  · exact absurd rfl minus
  · rfl

/-- What a reader accepts, with a sign read before it, is what it accepts with a sign put before. -/
theorem signed_iff {α : Type} [Neg α] {Spells : List Char → α → Prop} {read : List Char → Option α}
    (reads : ∀ text x, read text = some x ↔ Spells text x)
    (unsigned : ∀ text x, Spells text x → text.head? ≠ some '+' ∧ text.head? ≠ some '-') {y : α} :
    ((read (readSign text).2).map fun x => if (readSign text).1 then -x else x) = some y ↔
      Signed Spells text y := by
  constructor
  · intro read_eq
    obtain ⟨x, found, rfl⟩ := Option.map_eq_some_iff.1 read_eq
    have spelled := (reads _ _).1 found
    unfold readSign at spelled ⊢
    split at spelled
    · exact .plus spelled
    · exact .minus spelled
    · exact .bare spelled
  · intro spelled
    cases spelled with
    | bare h =>
      have signs := unsigned _ _ h
      rw [readSign_of_head? signs.1 signs.2, (reads _ _).2 h]
      rfl
    | plus h => rw [readSign_plus, (reads _ _).2 h]; rfl
    | minus h => rw [readSign_minus, (reads _ _).2 h]; rfl

/-! ## Integers -/

theorem isDigits_iff : IsDigits digits ↔ (digits.isEmpty || !digits.all isDigit) = false := by
  constructor
  · intro h
    simpa [h.ne_nil] using h.isDigit
  · intro h
    simp only [Bool.or_eq_false_iff, Bool.not_eq_false', List.isEmpty_eq_false_iff,
      List.all_eq_true] at h
    exact ⟨h.1, h.2⟩

theorem readInt?_eq_some_iff : readInt? text = some n ↔ Signed SpellsNatural text n := by
  have reads (text : List Char) (n : Int) :
      (if text.isEmpty || !text.all isDigit then none else some (digitsValue 10 text : Int)) =
        some n ↔ SpellsNatural text n := by
    constructor
    · intro read
      split at read
      · cases read
      · cases read
        rename_i digits
        exact .digits (isDigits_iff.2 (by simpa using digits))
    · rintro ⟨digits⟩
      rw [isDigits_iff.1 digits]
      rfl
  rw [← signed_iff reads fun text n spelled => by
    obtain ⟨digits⟩ := spelled
    exact ⟨digits.head?_ne rfl, digits.head?_ne rfl⟩]
  unfold readInt?
  dsimp only
  split <;> rfl

theorem writeInt_natural (k : Nat) : Json.writeInt k = decimalDigits k := by
  rw [Json.writeInt, if_neg (by omega)]
  rfl

theorem writeInt_negative {k : Nat} (positive : 0 < k) :
    Json.writeInt (-k) = '-' :: decimalDigits k := by
  rw [Json.writeInt, if_pos (by omega), Int.natAbs_neg]
  rfl

/-- An integer is written as digits, behind a minus if it is negative. -/
theorem writeInt_cases (n : Int) :
    (∃ k : Nat, n = k ∧ Json.writeInt n = decimalDigits k) ∨
      ∃ k : Nat, 0 < k ∧ n = -k ∧ Json.writeInt n = '-' :: decimalDigits k := by
  obtain ⟨k, rfl | rfl⟩ := n.eq_nat_or_neg
  · exact .inl ⟨k, rfl, writeInt_natural k⟩
  · by_cases zero : k = 0
    · subst zero
      exact .inl ⟨0, rfl, rfl⟩
    · have positive := Nat.pos_of_ne_zero zero
      exact .inr ⟨k, positive, rfl, writeInt_negative positive⟩

theorem spellsNatural_decimalDigits (k : Nat) : SpellsNatural (decimalDigits k) k := by
  have spelled := SpellsNatural.digits (isNumeral_decimalDigits k).toIsDigits
  rwa [digitsValue_decimalDigits] at spelled

/-- An integer is spelled by what it is written as. -/
theorem spells_writeInt (n : Int) : Signed SpellsNatural (Json.writeInt n) n := by
  rcases writeInt_cases n with ⟨k, rfl, written⟩ | ⟨k, -, rfl, written⟩
  · rw [written]
    exact .bare (spellsNatural_decimalDigits k)
  · rw [written]
    exact .minus (spellsNatural_decimalDigits k)

/-- A text is the written form of an integer: a numeral, or one other than zero behind a minus. -/
inductive IsInteger : List Char → Prop
  | natural {digits : List Char} (h : IsNumeral digits) : IsInteger digits
  | negative {digits : List Char} (h : IsNumeral digits) (nonzero : digits ≠ ['0']) :
    IsInteger ('-' :: digits)

theorem isInteger_writeInt (n : Int) : IsInteger (Json.writeInt n) := by
  rcases writeInt_cases n with ⟨k, -, written⟩ | ⟨k, positive, -, written⟩
  · rw [written]
    exact .natural (isNumeral_decimalDigits k)
  · rw [written]
    refine .negative (isNumeral_decimalDigits k) fun zero => ?_
    have value := digitsValue_decimalDigits k
    rw [zero] at value
    have nothing : digitsValue 10 ['0'] = 0 := rfl
    omega

/-- The written form of an integer spells the integer that is written so. -/
theorem IsInteger.exists_writeInt_eq (h : IsInteger text) :
    ∃ n, Signed SpellsNatural text n ∧ Json.writeInt n = text := by
  cases h with
  | natural numeral =>
    refine ⟨_, .bare (.digits numeral.toIsDigits), ?_⟩
    rw [writeInt_natural, numeral.decimalDigits_digitsValue]
  | @negative digits numeral nonzero =>
    refine ⟨_, .minus (.digits numeral.toIsDigits), ?_⟩
    have same := numeral.decimalDigits_digitsValue
    have positive : 0 < digitsValue 10 digits := by
      apply Nat.pos_of_ne_zero
      intro zero
      rw [zero] at same
      exact nonzero same.symm
    rw [writeInt_negative positive, same]

/-- An integer is written as the text that spelled it exactly if this is the written form of one. -/
theorem writeInt_eq_iff (h : Signed SpellsNatural text n) :
    Json.writeInt n = text ↔ IsInteger text := by
  constructor
  · rintro rfl
    exact isInteger_writeInt n
  · intro written
    obtain ⟨k, spelled, same⟩ := written.exists_writeInt_eq
    have read := (readInt?_eq_some_iff.2 h).symm.trans (readInt?_eq_some_iff.2 spelled)
    rw [Option.some.inj read, same]

/-! ## Doubles -/

theorem readExponent?_eq_some_iff : readExponent? text = some e ↔ SpellsExponent text e := by
  constructor
  · intro read
    unfold readExponent? at read
    split at read
    · cases read
      exact .missing
    · split_ifs at read with mark
      exact .given mark (readInt?_eq_some_iff.1 read)
  · intro spelled
    cases spelled with
    | missing => rfl
    | given mark h => rw [readExponent?, if_pos mark, readInt?_eq_some_iff.2 h]

/-- What follows digits does not begin with one. -/
theorem SpellsExponent.not_isDigit_head? (h : SpellsExponent tail e) :
    ∀ c, tail.head? = some c → isDigit c = false := by
  cases h with
  | missing => exact fun c first => nomatch first
  | given mark =>
    intro c first
    obtain rfl := Option.some.inj first
    rcases mark with rfl | rfl <;> rfl

theorem SpellsExponent.head?_ne_point (h : SpellsExponent tail e) : tail.head? ≠ some '.' := by
  cases h with
  | missing => nofun
  | given mark =>
    intro first
    obtain rfl := Option.some.inj first
    rcases mark with same | same <;> cases same

theorem not_isDigit_head?_dropWhile (text : List Char) :
    ∀ c, (text.dropWhile isDigit).head? = some c → isDigit c = false := by
  intro c first
  have stopped := List.head?_dropWhile_not isDigit text
  rw [first] at stopped
  exact stopped

/-- Digits are split from what follows them. -/
theorem takeWhile_append_digits (digits_all : ∀ c ∈ digits, isDigit c)
    (stop : ∀ c, tail.head? = some c → isDigit c = false) :
    (digits ++ tail).takeWhile isDigit = digits ∧ (digits ++ tail).dropWhile isDigit = tail := by
  rw [List.takeWhile_append_of_pos digits_all, List.dropWhile_append_of_pos digits_all]
  cases tail with
  | nil => simp
  | cons c rest =>
    have stopped : ¬ isDigit c = true := by simp [stop c rfl]
    rw [List.takeWhile_cons_of_neg stopped, List.dropWhile_cons_of_neg stopped, List.append_nil]
    exact ⟨rfl, rfl⟩

/-- Digits with no point behind them are read as an integer with an exponent. -/
theorem readDecimal?_append (digits_all : ∀ c ∈ digits, isDigit c)
    (stop : ∀ c, tail.head? = some c → isDigit c = false) (bare : tail.head? ≠ some '.') :
    readDecimal? (digits ++ tail) =
      if digits = [] then none
      else (readExponent? tail).map fun e => nearest (digitsValue 10 digits) e := by
  obtain ⟨taken, left⟩ := takeWhile_append_digits digits_all stop
  unfold readDecimal?
  simp only [taken, left]
  split
  · exact absurd rfl bare
  · simp [List.isEmpty_iff]

/-- Digits before a point are read on with those behind it. -/
theorem readDecimal?_append_point (whole_all : ∀ c ∈ whole, isDigit c)
    (fraction_all : ∀ c ∈ fraction, isDigit c)
    (stop : ∀ c, tail.head? = some c → isDigit c = false) :
    readDecimal? (whole ++ '.' :: (fraction ++ tail)) =
      if whole ++ fraction = [] then none
      else (readExponent? tail).map fun e =>
        nearest (digitsValue 10 (whole ++ fraction)) (e - fraction.length) := by
  have point : ∀ c, ('.' :: (fraction ++ tail)).head? = some c → isDigit c = false := by
    intro c first
    obtain rfl := Option.some.inj first
    rfl
  obtain ⟨taken, left⟩ := takeWhile_append_digits whole_all point
  obtain ⟨taken', left'⟩ := takeWhile_append_digits fraction_all stop
  simp only [readDecimal?, taken, left, taken', left', Bool.and_eq_true, List.isEmpty_iff,
    List.append_eq_nil_iff]

theorem readDecimal?_eq_some_iff :
    readDecimal? text = some x ↔ ∃ m e, SpellsDecimal text m e ∧ nearest m e = x := by
  constructor
  · intro read
    -- The digits at the front, and those behind the point if one follows.
    have whole_all : ∀ c ∈ text.takeWhile isDigit, isDigit c = true := fun c hc =>
      List.all_eq_true.1 List.all_takeWhile c hc
    have stop := not_isDigit_head?_dropWhile text
    rw [← List.takeWhile_append_dropWhile (p := isDigit) (l := text)] at read ⊢
    generalize text.takeWhile isDigit = whole at read whole_all ⊢
    generalize text.dropWhile isDigit = rest at read stop ⊢
    by_cases point : rest.head? = some '.'
    · obtain ⟨rest, rfl⟩ := List.head?_eq_some_iff.1 point
      have fraction_all : ∀ c ∈ rest.takeWhile isDigit, isDigit c = true := fun c hc =>
        List.all_eq_true.1 List.all_takeWhile c hc
      have stop' := not_isDigit_head?_dropWhile rest
      rw [← List.takeWhile_append_dropWhile (p := isDigit) (l := rest)] at read ⊢
      generalize rest.takeWhile isDigit = fraction at read fraction_all ⊢
      generalize rest.dropWhile isDigit = tail at read stop' ⊢
      rw [readDecimal?_append_point whole_all fraction_all stop'] at read
      split_ifs at read with empty
      obtain ⟨e, exponent, rfl⟩ := Option.map_eq_some_iff.1 read
      have digits : IsDigits (whole ++ fraction) :=
        ⟨empty, fun c hc => (List.mem_append.1 hc).elim (whole_all c) (fraction_all c)⟩
      exact ⟨_, _, .point digits (readExponent?_eq_some_iff.1 exponent), rfl⟩
    · rw [readDecimal?_append whole_all stop point] at read
      split_ifs at read with empty
      obtain ⟨e, exponent, rfl⟩ := Option.map_eq_some_iff.1 read
      exact ⟨_, _, .whole ⟨empty, whole_all⟩ (readExponent?_eq_some_iff.1 exponent), rfl⟩
  · rintro ⟨m, e, spelled, rfl⟩
    cases spelled with
    | whole h exponent =>
      rw [readDecimal?_append h.isDigit exponent.not_isDigit_head? exponent.head?_ne_point,
        if_neg h.ne_nil, readExponent?_eq_some_iff.2 exponent]
      rfl
    | point h exponent =>
      rw [readDecimal?_append_point (fun c hc => h.isDigit c (List.mem_append_left _ hc))
        (fun c hc => h.isDigit c (List.mem_append_right _ hc)) exponent.not_isDigit_head?,
        if_neg h.ne_nil, readExponent?_eq_some_iff.2 exponent]
      rfl

/-- A first character that is no capital letter stays in small letters. -/
theorem head?_smallLetters {c : Char} (first : text.head? = some c)
    (h : ¬ ('A' ≤ c ∧ c ≤ 'Z')) : (smallLetters text).head? = some c := by
  rw [smallLetters, List.head?_map, first, Option.map_some, if_neg h]

theorem not_capital_of_isDigit {c : Char} (h : isDigit c) : ¬ ('A' ≤ c ∧ c ≤ 'Z') := by
  have bounds := isDigit_iff.1 h
  simp only [Char.le_def, UInt32.le_iff_toNat_le, Char.toNat_val, Char.reduceToNat] at bounds ⊢
  omega

/-- A decimal begins with a digit or with its point. -/
theorem SpellsDecimal.exists_head? (h : SpellsDecimal text m e) :
    ∃ c, text.head? = some c ∧ (isDigit c ∨ c = '.') := by
  cases h with
  | whole h _ =>
    obtain ⟨c, rest, rfl⟩ := List.exists_cons_of_ne_nil h.ne_nil
    exact ⟨c, rfl, .inl (h.isDigit c List.mem_cons_self)⟩
  | @point whole _ _ _ h _ =>
    cases whole with
    | nil => exact ⟨'.', rfl, .inr rfl⟩
    | cons c rest => exact ⟨c, rfl, .inl (h.isDigit c (by simp))⟩

/-- A decimal begins as no word and no sign does. -/
theorem SpellsDecimal.head?_smallLetters_ne (h : SpellsDecimal text m e) {c : Char}
    (other : isDigit c = false) (bare : c ≠ '.') : (smallLetters text).head? ≠ some c := by
  obtain ⟨first, found, digit | rfl⟩ := h.exists_head?
  · rw [head?_smallLetters found (not_capital_of_isDigit digit)]
    rintro ⟨⟩
    rw [other] at digit
    cases digit
  · rw [head?_smallLetters found (by decide)]
    exact fun same => bare (Option.some.inj same).symm

/-- What spells a double without a sign does not begin with one. -/
theorem SpellsSize.head?_ne (h : SpellsSize text x) {c : Char} (sign : c = '+' ∨ c = '-') :
    text.head? ≠ some c := by
  have small : ¬ ('A' ≤ c ∧ c ≤ 'Z') := by rcases sign with rfl | rfl <;> decide
  intro first
  have begins := head?_smallLetters first small
  cases h with
  | infinite word =>
    rcases word with word | word
    all_goals
      rw [word] at begins
      obtain rfl := Option.some.inj begins
      rcases sign with same | same <;> cases same
  | undefined word =>
    rw [word] at begins
    obtain rfl := Option.some.inj begins
    rcases sign with same | same <;> cases same
  | finite decimal =>
    refine decimal.head?_smallLetters_ne ?_ ?_ begins
    all_goals rcases sign with rfl | rfl <;> decide

theorem readFloat?_eq_some_iff : readFloat? text = some x ↔ Signed SpellsSize text x := by
  have reads (body : List Char) (x : Float) :
      (if smallLetters body = ['i', 'n', 'f'] ∨
          smallLetters body = ['i', 'n', 'f', 'i', 'n', 'i', 't', 'y'] then
        some (Float.ofBits 0x7FF0000000000000)
      else if smallLetters body = ['n', 'a', 'n'] then some (Float.ofBits 0x7FF8000000000000)
      else readDecimal? body) = some x ↔ SpellsSize body x := by
    constructor
    · intro read
      split_ifs at read with infinite undefined
      · cases read
        exact .infinite infinite
      · cases read
        exact .undefined undefined
      · obtain ⟨m, e, decimal, rfl⟩ := readDecimal?_eq_some_iff.1 read
        exact .finite decimal
    · intro spelled
      cases spelled with
      | infinite word => rw [if_pos word]
      | undefined word =>
        rw [if_neg (by simp [word]), if_pos word]
      | finite decimal =>
        have letter {c : Char} (other : isDigit c = false) (bare : c ≠ '.') {rest : List Char} :
            smallLetters body ≠ c :: rest := fun word =>
          decimal.head?_smallLetters_ne other bare (by rw [word]; rfl)
        rw [if_neg (not_or.2 ⟨letter rfl (by decide), letter rfl (by decide)⟩),
          if_neg (letter rfl (by decide)), readDecimal?_eq_some_iff]
        exact ⟨_, _, decimal, rfl⟩
  rw [← signed_iff reads fun text x spelled =>
    ⟨spelled.head?_ne (.inl rfl), spelled.head?_ne (.inr rfl)⟩]
  rfl

end RequestKeys.Number
