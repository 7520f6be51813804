import Mathlib.Algebra.Group.Nat.Defs
import RequestKeys.Proofs.Text.Percent

/-!
# Encoded texts are read back

Every text is read back from its octets (`Utf8.decode_encode`), a path from its percent-encoded form
(`Percent.decode_encodePath`) and a field of a form from the form (`Percent.decodeForm_encodeForm`).
In all three the reading of a character does not depend on what comes after it, so each law is one
about a character with any rest, carried along the text.
-/

namespace RequestKeys

/-! ## UTF-8 -/

namespace Utf8

variable {b : UInt8} {k n : Nat} {p : Pending}

/-- The last `k` octets of a character with number `n`. -/
def continuations : Nat → Nat → List UInt8
  | 0, _ => []
  | k + 1, n => (0x80 + n / 0x40 ^ k % 0x40).toUInt8 :: continuations k n

theorem toNat_toUInt8 (h : n < 0x100) : n.toUInt8.toNat = n := UInt8.toNat_ofNat_of_lt h

theorem toNat_continuation (n : Nat) : (0x80 + n % 0x40).toUInt8.toNat = 0x80 + n % 0x40 :=
  toNat_toUInt8 (by omega)

theorem extend_continuation (bits : p.bits = n / 0x40 ^ (k + 1)) :
    p.extend (0x80 + n / 0x40 ^ k % 0x40).toUInt8 = n / 0x40 ^ k := by
  rw [Pending.extend_eq, toNat_continuation, bits, Nat.pow_succ, ← Nat.div_div_eq_div_mul]
  omega

/-- Octets that complete a character are read as that character. -/
theorem decodeFrom_continuations (bits : p.bits = n / 0x40 ^ (k + 1)) (owed : p.owed = k + 1)
    (accepted : p.accepts (0x80 + n / 0x40 ^ k % 0x40).toUInt8) (rest : List UInt8) :
    decodeFrom (some p) (continuations (k + 1) n ++ rest) =
      Char.ofNat n :: decodeFrom none rest := by
  -- On the octets owed: what has been read is the number without the bits of those to come.
  induction k generalizing p with
  | zero =>
    rw [continuations, List.cons_append, decodeFrom, if_pos accepted, if_pos (by omega),
      extend_continuation bits, Nat.pow_zero, Nat.div_one]
    rfl
  | succ k ih =>
    rw [continuations, List.cons_append, decodeFrom, if_pos accepted, if_neg (by omega),
      extend_continuation bits]
    refine ih rfl (by simp [owed]) ?_
    rw [Pending.accepts_iff, toNat_continuation]
    show 0x80 ≤ _ ∧ _ ≤ 0xBF
    omega

/-- The first octet and those that complete it. -/
theorem decodeFrom_of_lead (first : lead b = .opens p) (bits : p.bits = n / 0x40 ^ (k + 1))
    (owed : p.owed = k + 1)
    (range : p.low.toNat ≤ 0x80 + n / 0x40 ^ k % 0x40 ∧ 0x80 + n / 0x40 ^ k % 0x40 ≤ p.high.toNat)
    (rest : List UInt8) :
    decodeFrom none (b :: continuations (k + 1) n ++ rest) =
      Char.ofNat n :: decodeFrom none rest := by
  have accepted : p.accepts (0x80 + n / 0x40 ^ k % 0x40).toUInt8 := by
    rwa [Pending.accepts_iff, toNat_continuation]
  rw [List.cons_append, decodeFrom, first]
  exact decodeFrom_continuations bits owed accepted rest

/-! ### First octets -/

theorem lead_of_isAscii {c : Char} (h : IsAscii c) : lead c.toUInt8 = .complete c := by
  have small : c.toUInt8 < 0x80 := UInt8.lt_iff_toNat_lt.2 (h.toNat_toUInt8.symm ▸ h)
  rw [lead, if_pos small, h.toNat_toUInt8, Char.ofNat_toNat]

theorem lead_C0 (low : 2 ≤ n) (high : n < 0x20) :
    lead (0xC0 + n).toUInt8 = .opens ⟨n, 1, 0x80, 0xBF⟩ := by
  have octet : (0xC0 + n).toUInt8.toNat = 0xC0 + n := toNat_toUInt8 (by omega)
  simp only [lead, UInt8.lt_iff_toNat_lt, UInt8.reduceToNat, octet, Nat.add_sub_cancel_left]
  rw [if_neg (by omega), if_neg (by omega), if_pos (by omega)]

theorem lead_E0 (high : n < 0x10) :
    lead (0xE0 + n).toUInt8 =
      .opens ⟨n, 2, if n = 0 then 0xA0 else 0x80, if n = 0xD then 0x9F else 0xBF⟩ := by
  have octet : (0xE0 + n).toUInt8.toNat = 0xE0 + n := toNat_toUInt8 (by omega)
  have first : 0xE0 + n = 0xE0 ↔ n = 0 := by omega
  have surrogates : 0xE0 + n = 0xED ↔ n = 0xD := by omega
  simp only [lead, UInt8.lt_iff_toNat_lt, ← UInt8.toNat_inj, UInt8.reduceToNat, octet,
    Nat.add_sub_cancel_left, first, surrogates]
  rw [if_neg (by omega), if_neg (by omega), if_neg (by omega), if_pos (by omega)]

theorem lead_F0 (high : n < 5) :
    lead (0xF0 + n).toUInt8 =
      .opens ⟨n, 3, if n = 0 then 0x90 else 0x80, if n = 4 then 0x8F else 0xBF⟩ := by
  have octet : (0xF0 + n).toUInt8.toNat = 0xF0 + n := toNat_toUInt8 (by omega)
  have first : 0xF0 + n = 0xF0 ↔ n = 0 := by omega
  have last : 0xF0 + n = 0xF4 ↔ n = 4 := by omega
  simp only [lead, UInt8.lt_iff_toNat_lt, ← UInt8.toNat_inj, UInt8.reduceToNat, octet,
    Nat.add_sub_cancel_left, first, last]
  rw [if_neg (by omega), if_neg (by omega), if_neg (by omega), if_neg (by omega),
    if_pos (by omega)]

/-! ### Characters and texts -/

/-- The octets of a character beyond ASCII are one that opens it and those that complete it. -/
theorem exists_lead_of_not_isAscii {c : Char} (beyond : ¬ IsAscii c) :
    ∃ b p k, encodeChar c = b :: continuations (k + 1) c.toNat ∧ lead b = .opens p ∧
      p.bits = c.toNat / 0x40 ^ (k + 1) ∧ p.owed = k + 1 ∧
      p.low.toNat ≤ 0x80 + c.toNat / 0x40 ^ k % 0x40 ∧
      0x80 + c.toNat / 0x40 ^ k % 0x40 ≤ p.high.toNat := by
  -- A second octet outside a narrowed range would make the number one that fewer octets have, that
  -- of a surrogate or one too large.
  have scalar : c.toNat < 0xD800 ∨ 0xDFFF < c.toNat ∧ c.toNat < 0x110000 := c.valid
  rw [IsAscii] at beyond
  by_cases two : c.toNat < 0x800
  · refine ⟨_, _, 0, ?_, lead_C0 (n := c.toNat / 0x40) (by omega) (by omega), rfl, rfl, ?_⟩
    · simp [encodeChar, continuations, beyond, two]
    · simp only [UInt8.reduceToNat]
      omega
  by_cases three : c.toNat < 0x10000
  · refine ⟨_, _, 1, ?_, lead_E0 (n := c.toNat / 0x1000) (by omega), rfl, rfl, ?_⟩
    · simp [encodeChar, continuations, beyond, two, three]
    · constructor
      all_goals
        split_ifs
        all_goals
          simp only [UInt8.reduceToNat]
          omega
  · refine ⟨_, _, 2, ?_, lead_F0 (n := c.toNat / 0x40000) (by omega), rfl, rfl, ?_⟩
    · simp [encodeChar, continuations, beyond, two, three]
    · constructor
      all_goals
        split_ifs
        all_goals
          simp only [UInt8.reduceToNat]
          omega

theorem encodeChar_of_isAscii {c : Char} (h : IsAscii c) : encodeChar c = [c.toUInt8] := if_pos h

theorem decodeFrom_encodeChar_append (c : Char) (rest : List UInt8) :
    decodeFrom none (encodeChar c ++ rest) = c :: decodeFrom none rest := by
  by_cases ascii : IsAscii c
  · rw [encodeChar_of_isAscii ascii, List.singleton_append, decodeFrom, lead_of_isAscii ascii]
  · obtain ⟨b, p, k, octets, first, bits, owed, range⟩ := exists_lead_of_not_isAscii ascii
    rw [octets, decodeFrom_of_lead first bits owed range, Char.ofNat_toNat]

/-- A text is read back from its octets. -/
theorem decode_encode (text : List Char) : decode (encode text) = text := by
  induction text with
  | nil => rfl
  | cons c text ih =>
    rw [encode, List.flatMap_cons, decode, decodeFrom_encodeChar_append]
    exact congrArg (c :: ·) ih

/-- An octet of ASCII continues nothing that has been begun: it is read as its character, and what
comes before it is read as if it came last. -/
theorem decodeFrom_append_toUInt8 {st : Option Pending} (sound : ∀ p ∈ st, p.Sound) {c : Char}
    (ascii : IsAscii c) (before after : List UInt8) :
    decodeFrom st (before ++ c.toUInt8 :: after) =
      decodeFrom st before ++ c :: decodeFrom none after := by
  induction before generalizing st with
  | nil =>
    cases st with
    | none => simp only [List.nil_append, decodeFrom, lead_of_isAscii ascii]
    | some p =>
      have low := (sound p rfl).low_ge
      have refused : ¬ p.accepts c.toUInt8 := fun accepted => by
        have bounds := Pending.accepts_iff.1 accepted
        rw [ascii.toNat_toUInt8] at bounds
        exact absurd ascii (by rw [IsAscii]; omega)
      simp only [List.nil_append, decodeFrom, lead_of_isAscii ascii, if_neg refused,
        List.cons_append]
  | cons b before ih =>
    have fresh : decodeFrom none (before ++ c.toUInt8 :: after) = _ := ih (by simp)
    have begun {q : Pending} (first : lead b = .opens q) := ih (sound_of_lead first).of_mem
    cases st with
    | none =>
      simp only [List.cons_append, decodeFrom]
      cases first : lead b with
      | complete | invalid => simp only [fresh, List.cons_append]
      | opens q => exact begun first
    | some p =>
      simp only [List.cons_append, decodeFrom]
      by_cases accepted : p.accepts b
      · rw [if_pos accepted, if_pos accepted]
        by_cases owed : p.owed ≤ 1
        · rw [if_pos owed, if_pos owed, fresh, List.cons_append]
        · rw [if_neg owed, if_neg owed]
          exact ih ((sound p rfl).next accepted owed).of_mem
      · rw [if_neg accepted, if_neg accepted, List.cons_append]
        cases first : lead b with
        | complete | invalid => simp only [fresh, List.cons_append]
        | opens q => exact congrArg _ (begun first)

end Utf8

/-! ## Escapes -/

namespace Percent

variable {bs : List UInt8} {c : Char} {f : Char → List Char}

theorem hexValue?_upperHexDigit : ∀ n < 16, hexValue? (upperHexDigit n) = some n := by decide

theorem isAlphanum_upperHexDigit : ∀ n < 16, (upperHexDigit n).isAlphanum := by decide

theorem octets_cons_of_ne (h : c ≠ '%') (rest : List Char) :
    octets (c :: rest) = Utf8.encodeChar c ++ octets rest := by
  rw [octets]
  intro high low more percent
  exact absurd percent h

theorem pairValue?_upperHexDigit (b : UInt8) :
    pairValue? (upperHexDigit (b.toNat / 16)) (upperHexDigit (b.toNat % 16)) = some b := by
  have limit : b.toNat < 256 := b.toNat_lt
  refine pairValue?_eq_some_iff.2 ⟨_, _, hexValue?_upperHexDigit _ (by omega),
    hexValue?_upperHexDigit _ (by omega), ?_⟩
  rw [Nat.div_add_mod']
  exact UInt8.ofNat_toNat

theorem octets_escape_append (b : UInt8) (rest : List Char) :
    octets (escape b ++ rest) = b :: octets rest := by
  simp only [escape, List.cons_append, List.nil_append, octets, pairValue?_upperHexDigit]

theorem octets_escapes_append (bs : List UInt8) (rest : List Char) :
    octets (bs.flatMap escape ++ rest) = bs ++ octets rest := by
  induction bs with
  | nil => rfl
  | cons b bs ih =>
    rw [List.flatMap_cons, List.append_assoc, octets_escape_append, ih, List.cons_append]

theorem percent_or_isAlphanum_of_mem_escapes (h : c ∈ bs.flatMap escape) :
    c = '%' ∨ c.isAlphanum := by
  obtain ⟨b, -, found⟩ := List.mem_flatMap.1 h
  have limit : b.toNat < 256 := b.toNat_lt
  simp only [escape, List.mem_cons, List.not_mem_nil, or_false] at found
  rcases found with percent | high | low
  · exact .inl percent
  · exact .inr (high ▸ isAlphanum_upperHexDigit _ (by omega))
  · exact .inr (low ▸ isAlphanum_upperHexDigit _ (by omega))

/-- A way to write characters by which each of them is read back is one by which texts are. -/
theorem decode_flatMap
    (h : ∀ c rest, octets (f c ++ rest) = Utf8.encodeChar c ++ octets rest) (text : List Char) :
    decode (text.flatMap f) = text := by
  have whole : octets (text.flatMap f) = Utf8.encode text := by
    induction text with
    | nil => rfl
    | cons c text ih =>
      rw [List.flatMap_cons, h, ih]
      rfl
  rw [decode, whole, Utf8.decode_encode]

/-! ### Paths -/

theorem mem_encodePath {text : List Char} (h : c ∈ encodePath text) : c = '%' ∨ isPathSafe c := by
  obtain ⟨d, -, found⟩ := List.mem_flatMap.1 h
  split_ifs at found with safe
  · exact .inr (List.mem_singleton.1 found ▸ safe)
  · refine (percent_or_isAlphanum_of_mem_escapes found).imp_right fun digit => ?_
    simp [isPathSafe, digit]

/-- A path is read back from its encoded form. -/
theorem decode_encodePath (text : List Char) : decode (encodePath text) = text := by
  refine decode_flatMap (fun c rest => ?_) text
  split_ifs with safe
  · refine octets_cons_of_ne ?_ rest
    rintro rfl
    exact absurd safe (by decide)
  · exact octets_escapes_append _ rest

/-! ### Forms -/

theorem mem_encodeForm {text : List Char} (h : c ∈ encodeForm text) :
    c = '+' ∨ c = '%' ∨ isFormSafe c := by
  obtain ⟨d, -, found⟩ := List.mem_flatMap.1 h
  split_ifs at found with space safe
  · exact .inl (List.mem_singleton.1 found)
  · exact .inr (.inr (List.mem_singleton.1 found ▸ safe))
  · refine .inr ((percent_or_isAlphanum_of_mem_escapes found).imp_right fun digit => ?_)
    simp [isFormSafe, digit]

/-- A name or a value is read back from a form. -/
theorem decodeForm_encodeForm (text : List Char) : decodeForm (encodeForm text) = text := by
  rw [decodeForm, encodeForm, List.map_flatMap]
  refine decode_flatMap (fun c rest => ?_) text
  -- The only plus sign is the one that is written for a space.
  split_ifs with space safe
  · subst space
    exact octets_cons_of_ne (by decide) rest
  · have plain : c ≠ '+' ∧ c ≠ '%' := by
      constructor <;> (rintro rfl; exact absurd safe (by decide))
    rw [List.map_singleton, if_neg plain.1]
    exact octets_cons_of_ne plain.2 rest
  · have plusless : '+' ∉ (Utf8.encodeChar c).flatMap escape := fun plus =>
      absurd (percent_or_isAlphanum_of_mem_escapes plus) (by decide)
    rw [map_eq_self_of_plus_not_mem plusless]
    exact octets_escapes_append _ rest

end Percent

end RequestKeys
