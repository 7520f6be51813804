import RequestKeys.Proofs.Text.Utf8
import RequestKeys.Text.Percent

/-!
# What percent decoding brings in

An ASCII character of a decoded text is one of the text, or it is escaped there: its octet is
written as a percent sign and two digits (`mem_or_escapes_of_mem_decode`).
-/

namespace RequestKeys.Percent

open Utf8 (IsAscii)

variable {b : UInt8} {c high low : Char} {text more : List Char}

/-- The octet is escaped somewhere in the text. -/
def Escapes (b : UInt8) (text : List Char) : Prop :=
  ∃ high low, pairValue? high low = some b ∧ ['%', high, low] <:+: text

theorem Escapes.mono (h : Escapes b text) (part : text <:+: more) : Escapes b more := by
  obtain ⟨high, low, value, found⟩ := h
  exact ⟨high, low, value, found.trans part⟩

theorem mem_encode_or_escapes_mono (h : b ∈ Utf8.encode text ∨ Escapes b text)
    (part : text <:+: more) : b ∈ Utf8.encode more ∨ Escapes b more := by
  refine h.imp (fun h => ?_) (·.mono part)
  obtain ⟨d, hd, found⟩ := List.mem_flatMap.1 h
  exact List.mem_flatMap.2 ⟨d, part.subset hd, found⟩

theorem mem_encode_or_escapes_of_mem_octets (h : b ∈ octets text) :
    b ∈ Utf8.encode text ∨ Escapes b text := by
  fun_induction octets text with
  | case1 => cases h
  | case2 high low rest value pair ih =>
    rcases List.mem_cons.1 h with rfl | h
    · exact .inr ⟨high, low, pair, [], rest, rfl⟩
    · exact mem_encode_or_escapes_mono (ih h) ⟨['%', high, low], [], by simp⟩
  | case3 high low rest _ ih =>
    rcases List.mem_cons.1 h with rfl | h
    · exact .inl List.mem_cons_self
    · exact mem_encode_or_escapes_mono (ih h) (List.suffix_cons _ _).isInfix
  | case4 c rest _ ih =>
    rcases List.mem_append.1 h with here | h
    · exact .inl (List.mem_flatMap.2 ⟨c, List.mem_cons_self, here⟩)
    · exact mem_encode_or_escapes_mono (ih h) (List.suffix_cons _ _).isInfix

/-- An ASCII character of a decoded text stands in the text or is escaped there. -/
theorem mem_or_escapes_of_mem_decode (ascii : IsAscii c) (h : c ∈ decode text) :
    c ∈ text ∨ Escapes c.toUInt8 text :=
  (mem_encode_or_escapes_of_mem_octets (Utf8.toUInt8_mem_of_mem_decode ascii h)).imp_left
    (Utf8.mem_of_toUInt8_mem_encode ascii)

/-! ## Digits -/

theorem toNat_of_hexValue?_eq_some {n : Nat} (h : hexValue? c = some n) :
    c.toNat = 0x30 + n ∧ n < 10 ∨ c.toNat = 0x57 + n ∧ 10 ≤ n ∧ n < 16 ∨
      c.toNat = 0x37 + n ∧ 10 ≤ n ∧ n < 16 := by
  unfold hexValue? at h
  simp only [Char.le_def, UInt32.le_iff_toNat_le, Char.toNat_val, Char.reduceToNat] at h
  split_ifs at h
  all_goals
    have value := Option.some.inj h
    omega

theorem pairValue?_eq_some_iff :
    pairValue? high low = some b ↔
      ∃ h l, hexValue? high = some h ∧ hexValue? low = some l ∧ (h * 16 + l).toUInt8 = b := by
  unfold pairValue?
  cases hexValue? high <;> cases hexValue? low <;> simp

/-- The two ways to escape the line feed. -/
theorem escapes_lineFeed_iff :
    Escapes '\n'.toUInt8 text ↔ ['%', '0', 'A'] <:+: text ∨ ['%', '0', 'a'] <:+: text := by
  constructor
  · rintro ⟨high, low, value, found⟩
    obtain ⟨h, l, ofHigh, ofLow, octet⟩ := pairValue?_eq_some_iff.1 value
    have octet : (h * 16 + l) % 0x100 = 0x0A := congrArg UInt8.toNat octet
    have high_eq := toNat_of_hexValue?_eq_some ofHigh
    have low_eq := toNat_of_hexValue?_eq_some ofLow
    have zero : high = '0' := Char.toNat_inj.1 (by simp only [Char.reduceToNat]; omega)
    have ten : low = 'A' ∨ low = 'a' := by
      simp only [← Char.toNat_inj, Char.reduceToNat]
      omega
    rcases ten with rfl | rfl
    · exact .inl (zero ▸ found)
    · exact .inr (zero ▸ found)
  · rintro (found | found)
    · exact ⟨_, _, rfl, found⟩
    · exact ⟨_, _, rfl, found⟩

/-! ## Forms -/

theorem map_eq_self_of_plus_not_mem (h : '+' ∉ text) :
    (text.map fun c => if c = '+' then ' ' else c) = text := by
  have same : ∀ c ∈ text, (if c = '+' then ' ' else c) = c := fun c hc =>
    if_neg (ne_of_mem_of_not_mem hc h)
  rw [List.map_congr_left same, List.map_id']

/-- A plus sign that is read as a space is no part of an escape. -/
theorem Escapes.of_map (h : Escapes b (text.map fun c => if c = '+' then ' ' else c)) :
    Escapes b text := by
  obtain ⟨high, low, value, before, after, split⟩ := h
  obtain ⟨h, l, ofHigh, ofLow, -⟩ := pairValue?_eq_some_iff.1 value
  obtain ⟨front, after, rfl, mapped, -⟩ := List.map_eq_append_iff.1 split.symm
  obtain ⟨before, middle, rfl, -, mapped⟩ := List.map_eq_append_iff.1 mapped
  have digit {c : Char} {n : Nat} (value : hexValue? c = some n) : c ≠ ' ' := by
    rintro rfl
    cases value
  have spaceless : ∀ c ∈ ['%', high, low], c ≠ ' ' := by
    simp [digit ofHigh, digit ofLow]
  have plusless : '+' ∉ middle := fun plus =>
    spaceless ' ' (mapped ▸ List.mem_map.2 ⟨'+', plus, rfl⟩) rfl
  rw [map_eq_self_of_plus_not_mem plusless] at mapped
  exact ⟨high, low, value, before, after, by rw [mapped]⟩

theorem mem_or_escapes_of_mem_decodeForm (ascii : IsAscii c) (space : c ≠ ' ')
    (h : c ∈ decodeForm text) : c ∈ text ∨ Escapes c.toUInt8 text := by
  refine (mem_or_escapes_of_mem_decode ascii h).imp (fun h => ?_) Escapes.of_map
  obtain ⟨d, hd, rfl⟩ := List.mem_map.1 h
  split_ifs at space with plus
  · exact absurd rfl space
  · rwa [if_neg plus]

end RequestKeys.Percent
