import Mathlib.Tactic.SplitIfs
import RequestKeys.Text.Utf8

/-!
# ASCII in UTF-8

An octet below 0x80 is a character by itself, and no other octets decode to one below 0x80: what has
been begun can only become a larger one (`Pending.Sound`) or U+FFFD.  So a stretch of ASCII
characters in a decoded text is a stretch of the octets (`map_toUInt8_isInfix`).
-/

namespace RequestKeys.Utf8

variable {b : UInt8} {c : Char} {p : Pending} {st : Option Pending} {octets : List UInt8}
  {cs : List Char}

theorem toNat_ofNat {n : Nat} (h : n.isValidChar) : (Char.ofNat n).toNat = n := by
  rw [Char.ofNat, dif_pos h]
  rfl

theorem toNat_lt (c : Char) : c.toNat < 0x110000 :=
  c.valid.elim (fun low => Nat.lt_trans low (by decide)) And.right

/-- A character of one octet. -/
def IsAscii (c : Char) : Prop := c.toNat < 0x80

instance : DecidablePred IsAscii := fun c => inferInstanceAs (Decidable (c.toNat < 0x80))

theorem IsAscii.toNat_toUInt8 (h : IsAscii c) : c.toUInt8.toNat = c.toNat :=
  Nat.mod_eq_of_lt (Nat.lt_trans h (by decide))

/-! ## Characters begun -/

namespace Pending

/-- The least number that `p` can become. -/
def least (p : Pending) : Nat := (p.bits * 0x40 + (p.low.toNat - 0x80)) <<< (6 * (p.owed - 1))

/-- One more than the greatest number that `p` can become. -/
def bound (p : Pending) : Nat :=
  (p.bits * 0x40 + (p.high.toNat - 0x80) + 1) <<< (6 * (p.owed - 1))

/-- Every number that `p` can become is that of a character beyond ASCII, on one side of the
surrogates. -/
structure Sound (p : Pending) : Prop where
  owed_pos : 1 ≤ p.owed
  owed_le : p.owed ≤ 3
  low_ge : 0x80 ≤ p.low.toNat
  high_le : p.high.toNat ≤ 0xBF
  scalars : 0x80 ≤ p.least ∧ p.bound ≤ 0xD800 ∨ 0xE000 ≤ p.least ∧ p.bound ≤ 0x110000

theorem extend_eq (p : Pending) (b : UInt8) :
    p.extend b = p.bits * 0x40 + (b.toNat - 0x80) := rfl

theorem accepts_iff : p.accepts b ↔ p.low.toNat ≤ b.toNat ∧ b.toNat ≤ p.high.toNat := by
  simp [accepts, UInt8.le_iff_toNat_le]

theorem Sound.next (s : p.Sound) (accepted : p.accepts b) (owed : ¬ p.owed ≤ 1) :
    Sound ⟨p.extend b, p.owed - 1, 0x80, 0xBF⟩ := by
  obtain ⟨low, high⟩ := accepts_iff.1 accepted
  obtain ⟨-, owed_le, low_ge, high_le, scalars⟩ := s
  have first : (0x80 : UInt8).toNat = 0x80 := rfl
  have last : (0xBF : UInt8).toNat = 0xBF := rfl
  refine ⟨Nat.le_sub_one_of_lt (by omega), Nat.le_trans (Nat.sub_le _ _) owed_le, Nat.le_refl _,
    Nat.le_refl _, ?_⟩
  have cases : p.owed = 2 ∨ p.owed = 3 := by omega
  rcases cases with two | three
  · simp only [least, bound, extend_eq, two, first, last, Nat.shiftLeft_eq, Nat.reduceSub,
      Nat.reduceMul, Nat.reducePow] at scalars ⊢
    omega
  · simp only [least, bound, extend_eq, three, first, last, Nat.shiftLeft_eq, Nat.reduceSub,
      Nat.reduceMul, Nat.reducePow] at scalars ⊢
    omega

theorem Sound.not_isAscii (s : p.Sound) (accepted : p.accepts b) (owed : p.owed ≤ 1) :
    ¬ IsAscii (Char.ofNat (p.extend b)) := by
  obtain ⟨low, high⟩ := accepts_iff.1 accepted
  obtain ⟨owed_pos, -, low_ge, high_le, scalars⟩ := s
  have one : p.owed = 1 := by omega
  simp only [least, bound, one, Nat.sub_self, Nat.mul_zero, Nat.shiftLeft_zero] at scalars
  have valid : (p.extend b).isValidChar := by
    simp only [Nat.isValidChar, extend_eq]
    omega
  rw [IsAscii, toNat_ofNat valid, extend_eq]
  omega

end Pending

theorem Pending.Sound.of_mem (s : p.Sound) : ∀ q ∈ some p, q.Sound :=
  fun _ h => Option.some.inj h ▸ s

theorem sound_of_lead (h : lead b = .opens p) : p.Sound := by
  unfold lead at h
  simp only [UInt8.lt_iff_toNat_lt, ← UInt8.toNat_inj, UInt8.reduceToNat] at h
  split_ifs at h
  all_goals
    obtain rfl := Lead.opens.inj h
    refine ⟨?_, ?_, ?_, ?_, ?_⟩
    all_goals
      simp only [Pending.least, Pending.bound, Nat.shiftLeft_eq, Nat.reduceSub, Nat.reduceMul,
        Nat.reducePow, UInt8.reduceToNat]
      omega

theorem eq_toUInt8_of_lead (h : lead b = .complete c) : b = c.toUInt8 := by
  unfold lead at h
  split_ifs at h with ascii
  obtain rfl := Lead.complete.inj h
  have small : b.toNat < 0x80 := UInt8.lt_iff_toNat_lt.1 ascii
  have number := toNat_ofNat (.inl (Nat.lt_trans small (by decide)))
  have ascii : IsAscii (Char.ofNat b.toNat) := by rwa [IsAscii, number]
  rw [← UInt8.toNat_inj, ascii.toNat_toUInt8, number]

/-! ## Decoding -/

/-- The state of decoding after its first character. -/
theorem exists_decodeFrom_eq (sound : ∀ p ∈ st, p.Sound) (h : decodeFrom st octets = c :: cs) :
    ∃ st' rest, (∀ p ∈ st', p.Sound) ∧ decodeFrom st' rest = cs ∧ rest <:+ octets ∧
      (IsAscii c → st = none ∧ octets = c.toUInt8 :: rest) := by
  -- A first octet, and one that goes on with a character, give no character of their own: then the
  -- first character is that of the rest, decoded with a character begun, which is beyond ASCII.
  induction octets generalizing st with
  | nil =>
    cases st with
    | none => cases h
    | some p =>
      obtain ⟨rfl, rfl⟩ := List.cons.inj h
      exact ⟨none, [], nofun, rfl, List.suffix_rfl, fun ascii => absurd ascii (by decide)⟩
  | cons b octets ih =>
    cases st with
    | none =>
      simp only [decodeFrom] at h
      cases first : lead b with
      | complete d =>
        simp only [first] at h
        obtain ⟨rfl, rfl⟩ := List.cons.inj h
        obtain rfl := eq_toUInt8_of_lead first
        exact ⟨none, octets, nofun, rfl, List.suffix_cons _ _, fun _ => ⟨rfl, rfl⟩⟩
      | opens q =>
        simp only [first] at h
        obtain ⟨st', rest, sound', decoded, less, ascii⟩ := ih (sound_of_lead first).of_mem h
        exact ⟨st', rest, sound', decoded, less.trans (List.suffix_cons _ _),
          fun h => absurd (ascii h).1 nofun⟩
      | invalid =>
        simp only [first] at h
        obtain ⟨rfl, rfl⟩ := List.cons.inj h
        exact ⟨none, octets, nofun, rfl, List.suffix_cons _ _,
          fun ascii => absurd ascii (by decide)⟩
    | some p =>
      have s := sound p rfl
      simp only [decodeFrom] at h
      split_ifs at h with accepted owed
      · obtain ⟨rfl, rfl⟩ := List.cons.inj h
        exact ⟨none, octets, nofun, rfl, List.suffix_cons _ _,
          fun ascii => absurd ascii (s.not_isAscii accepted owed)⟩
      · obtain ⟨st', rest, sound', decoded, less, ascii⟩ := ih (s.next accepted owed).of_mem h
        exact ⟨st', rest, sound', decoded, less.trans (List.suffix_cons _ _),
          fun h => absurd (ascii h).1 nofun⟩
      · obtain ⟨rfl, rfl⟩ := List.cons.inj h
        -- What does not continue the character begun is read once more from the start.
        exact ⟨none, b :: octets, nofun, rfl, List.suffix_rfl,
          fun ascii => absurd ascii (by decide)⟩

theorem map_toUInt8_isPrefix {after : List Char} (sound : ∀ p ∈ st, p.Sound)
    (ascii : ∀ c ∈ cs, IsAscii c) (h : decodeFrom st octets = cs ++ after) :
    cs.map Char.toUInt8 <+: octets := by
  induction cs generalizing st octets with
  | nil => exact List.nil_prefix
  | cons c cs ih =>
    obtain ⟨st', rest, sound', decoded, -, first⟩ := exists_decodeFrom_eq sound h
    obtain ⟨-, rfl⟩ := first (ascii c List.mem_cons_self)
    have more := ih sound' (fun d hd => ascii d (List.mem_cons_of_mem _ hd)) decoded
    exact (List.prefix_cons_inj _).2 more

theorem exists_decodeFrom_eq_of_append {before after : List Char} (sound : ∀ p ∈ st, p.Sound)
    (h : decodeFrom st octets = before ++ after) :
    ∃ st' rest, (∀ p ∈ st', p.Sound) ∧ decodeFrom st' rest = after ∧ rest <:+ octets := by
  induction before generalizing st octets with
  | nil => exact ⟨st, octets, sound, h, List.suffix_rfl⟩
  | cons c before ih =>
    obtain ⟨st', rest, sound', decoded, less, -⟩ := exists_decodeFrom_eq sound h
    obtain ⟨st'', rest', sound'', decoded', less'⟩ := ih sound' decoded
    exact ⟨st'', rest', sound'', decoded', less'.trans less⟩

/-- ASCII characters that follow each other in a decoded text are octets that do so as well. -/
theorem map_toUInt8_isInfix (ascii : ∀ c ∈ cs, IsAscii c) (h : cs <:+: decode octets) :
    cs.map Char.toUInt8 <:+: octets := by
  obtain ⟨before, after, split⟩ := h
  rw [List.append_assoc] at split
  have between : ∀ p ∈ (none : Option Pending), p.Sound := nofun
  obtain ⟨st, rest, sound, decoded, less⟩ := exists_decodeFrom_eq_of_append between split.symm
  exact (map_toUInt8_isPrefix sound ascii decoded).isInfix.trans less.isInfix

theorem toUInt8_mem_of_mem_decode (ascii : IsAscii c) (h : c ∈ decode octets) :
    c.toUInt8 ∈ octets := by
  have alone : [c] <:+: decode octets := by
    obtain ⟨before, after, split⟩ := List.append_of_mem h
    exact ⟨before, after, by simp [split]⟩
  have found := map_toUInt8_isInfix (by simpa using ascii) alone
  exact found.subset List.mem_cons_self

/-! ## Encoding -/

/-- The octet of an ASCII character is no part of another character. -/
theorem eq_of_mem_encodeChar {d : Char} (ascii : IsAscii c) (h : c.toUInt8 ∈ encodeChar d) :
    d = c := by
  have small : c.toNat < 0x80 := ascii
  have limit := toNat_lt d
  have number (n : Nat) (equal : c.toUInt8 = n.toUInt8) : c.toNat = n % 0x100 := by
    rw [← ascii.toNat_toUInt8, equal]
    rfl
  simp only [encodeChar] at h
  split_ifs at h
  · have equal := number _ (List.mem_singleton.1 h)
    exact Char.toNat_inj.1 (by omega)
  -- The octets of longer characters are at least 0x80.
  all_goals
    simp only [List.mem_cons, List.not_mem_nil, or_false] at h
    exfalso
  · have equal := h.imp (number _) (number _)
    omega
  · have equal := h.imp (number _) (Or.imp (number _) (number _))
    omega
  · have equal := h.imp (number _) (Or.imp (number _) (Or.imp (number _) (number _)))
    omega

theorem mem_of_toUInt8_mem_encode {text : List Char} (ascii : IsAscii c)
    (h : c.toUInt8 ∈ encode text) : c ∈ text := by
  obtain ⟨d, hd, found⟩ := List.mem_flatMap.1 h
  exact eq_of_mem_encodeChar ascii found ▸ hd

end RequestKeys.Utf8
