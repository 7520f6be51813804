import RequestKeys.Path.Segment
import RequestKeys.Proofs.Text.Percent
import RequestKeys.Proofs.Text.Split

/-!
# Kinds that exclude each other

Hashes aside, the characters of a segment leave one kind that it can be of (`Kind.candidate`), and
every hash is a hexadecimal number.  So the order in which kinds are tried matters between hashes
and numbers only (`Detection.classify_eq_some_iff`), and a kind that is no longer looked for takes
nothing with it but its own segments, which become numbers if they are hashes and numbers are looked
for (`Detection.classify_without`).
-/

namespace RequestKeys.Path

open Split (pieces)

variable {s : List Char} {c : Char} {k l : Kind}

/-! ## The characters of numbers, UUIDs and addresses -/

/-- A hexadecimal digit or one of the marks that stand between digits in UUIDs and addresses. -/
def isCodeChar (c : Char) : Bool := isHexDigit c || c == '-' || c == '.' || c == ':'

theorem isHexDigit_of_isDigit (h : isDigit c) : isHexDigit c := by
  have digit : '0' ≤ c ∧ c ≤ '9' := by simpa [isDigit] using h
  rw [isHexDigit, hexValue?, if_pos digit]
  rfl

theorem isHexDigit_of_isLowerHexDigit (h : isLowerHexDigit c) : isHexDigit c := by
  rw [isLowerHexDigit, Bool.or_eq_true] at h
  rcases h with digit | letter
  · exact isHexDigit_of_isDigit digit
  · have small : 'a' ≤ c ∧ c ≤ 'f' := by simpa using letter
    unfold isHexDigit hexValue?
    split_ifs <;> rfl

theorem toNat_lt_of_isCodeChar (h : isCodeChar c) : c.toNat < 0x80 := by
  simp only [isCodeChar, Bool.or_eq_true, beq_iff_eq] at h
  rcases h with ((hex | rfl) | rfl) | rfl
  · obtain ⟨n, value⟩ := Option.isSome_iff_exists.1 hex
    have number := Percent.toNat_of_hexValue?_eq_some value
    omega
  all_goals decide

theorem isHexDigit_of_isNumber (h : isNumeric s || isHexadecimal s) (hc : c ∈ s) :
    isHexDigit c := by
  rw [Bool.or_eq_true, isNumeric, isHexadecimal, Bool.and_eq_true, Bool.and_eq_true,
    List.all_eq_true, List.all_eq_true] at h
  rcases h with decimal | hexadecimal
  · exact isHexDigit_of_isDigit (decimal.2 c hc)
  · exact hexadecimal.2 c hc

theorem isHexadecimal_of_isHash (h : isHash s) : isHexadecimal s := by
  rw [isHash, Bool.and_eq_true, List.all_eq_true] at h
  have nonempty : s ≠ [] := by
    rintro rfl
    exact absurd h.1 (by decide)
  rw [isHexadecimal, Bool.and_eq_true, List.all_eq_true]
  exact ⟨by simpa using nonempty, fun c hc => isHexDigit_of_isLowerHexDigit (h.2 c hc)⟩

theorem chars_of_isUuid (h : isUuid s) : '-' ∈ s ∧ ∀ c ∈ s, isHexDigit c ∨ c = '-' := by
  rw [isUuid, Bool.and_eq_true, beq_iff_eq, List.all_eq_true] at h
  obtain ⟨lengths, digits⟩ := h
  refine ⟨Split.mem_of_length_pieces_ne_one ?_, fun c hc => ?_⟩
  · have five := congrArg List.length lengths
    rw [List.length_map] at five
    simp [five]
  · rcases Split.eq_or_mem_of_mem '-' hc with rfl | ⟨group, found, here⟩
    · exact .inr rfl
    · exact .inl (isHexDigit_of_isLowerHexDigit (List.all_eq_true.1 (digits group found) c here))

theorem chars_of_isAddressV4 (h : isAddressV4 s) : '.' ∈ s ∧ ∀ c ∈ s, isHexDigit c ∨ c = '.' := by
  rw [isAddressV4, Bool.and_eq_true, beq_iff_eq, List.all_eq_true] at h
  obtain ⟨four, octets⟩ := h
  refine ⟨Split.mem_of_length_pieces_ne_one (by simp [four]), fun c hc => ?_⟩
  rcases Split.eq_or_mem_of_mem '.' hc with rfl | ⟨octet, found, here⟩
  · exact .inr rfl
  · have decimal := octets octet found
    simp only [isDecimalOctet, Bool.and_eq_true, List.all_eq_true] at decimal
    exact .inl (isHexDigit_of_isDigit (decimal.1.1.1.1 c here))

theorem isHexDigit_of_isHexGroup (h : isHexGroup s) (hc : c ∈ s) : isHexDigit c := by
  simp only [isHexGroup, Bool.and_eq_true, List.all_eq_true] at h
  exact h.1.1 c hc

/-- What is counted is nothing, or groups of digits, the last of which may be an address. -/
theorem cases_of_groupCount? {v4 : Bool} {n : Nat} (h : groupCount? v4 s = some n) :
    s = [] ∧ n = 0 ∨ (∀ g ∈ pieces ':' s, isHexGroup g) ∧ n = (pieces ':' s).length ∨
      ∃ before address, pieces ':' s = before ++ [address] ∧ (∀ g ∈ before, isHexGroup g) ∧
        isAddressV4 address ∧ n = (pieces ':' s).length + 1 := by
  unfold groupCount? at h
  dsimp only at h
  split_ifs at h with empty groups mixed <;> obtain rfl := Option.some.inj h
  · exact .inl ⟨List.isEmpty_iff.1 empty, rfl⟩
  · exact .inr (.inl ⟨List.all_eq_true.1 groups, rfl⟩)
  · rw [Bool.and_eq_true, Bool.and_eq_true, List.all_eq_true,
      List.getLast?_eq_some_getLast (Split.pieces_ne_nil ':' s)] at mixed
    exact .inr (.inr ⟨_, _, (List.dropLast_concat_getLast (Split.pieces_ne_nil ':' s)).symm,
      mixed.1.2, mixed.2, rfl⟩)

theorem chars_of_groupCount? {v4 : Bool} {n : Nat} (h : groupCount? v4 s = some n) (hc : c ∈ s) :
    isHexDigit c ∨ c = '.' ∨ c = ':' := by
  rcases Split.eq_or_mem_of_mem ':' hc with rfl | ⟨group, found, here⟩
  · exact .inr (.inr rfl)
  rcases cases_of_groupCount? h with
    ⟨rfl, -⟩ | ⟨groups, -⟩ | ⟨before, address, split, groups, v4, -⟩
  · cases hc
  · exact .inl (isHexDigit_of_isHexGroup (groups group found) here)
  · rw [split, List.mem_append, List.mem_singleton] at found
    rcases found with found | rfl
    · exact .inl (isHexDigit_of_isHexGroup (groups group found) here)
    · exact ((chars_of_isAddressV4 v4).2 c here).imp_right .inl

theorem le_of_groupCount? {v4 : Bool} {n : Nat} (h : groupCount? v4 s = some n) :
    n ≤ (pieces ':' s).length + 1 := by
  rcases cases_of_groupCount? h with ⟨-, rfl⟩ | ⟨-, rfl⟩ | ⟨_, _, -, -, -, rfl⟩ <;> omega

theorem chars_of_isAddressV6 (h : isAddressV6 s) :
    ':' ∈ s ∧ ∀ c ∈ s, isHexDigit c ∨ c = '.' ∨ c = ':' := by
  unfold isAddressV6 at h
  split at h
  · have eight := beq_iff_eq.1 h
    have groups := le_of_groupCount? eight
    exact ⟨Split.mem_of_length_pieces_ne_one (by omega), fun c hc => chars_of_groupCount? eight hc⟩
  · next left right gap =>
    split at h
    · next a b before after =>
      rw [Split.eq_append_of_cutAt_eq_some gap]
      refine ⟨by simp, fun c hc => ?_⟩
      rw [List.mem_append, List.mem_append] at hc
      rcases hc with (hc | hc) | hc
      · exact chars_of_groupCount? before hc
      · exact .inr (.inr (by simpa using hc))
      · exact chars_of_groupCount? after hc
    · cases h

theorem chars_of_isAddress (h : isAddress s) :
    ('.' ∈ s ∨ ':' ∈ s) ∧ ∀ c ∈ s, isHexDigit c ∨ c = '.' ∨ c = ':' := by
  rw [isAddress, Bool.or_eq_true] at h
  rcases h with v4 | v6
  · obtain ⟨point, chars⟩ := chars_of_isAddressV4 v4
    exact ⟨.inl point, fun c hc => (chars c hc).imp_right .inl⟩
  · obtain ⟨colon, chars⟩ := chars_of_isAddressV6 v6
    exact ⟨.inr colon, chars⟩

/-! ## Extensions -/

/-- Folding a character keeps it among those of numbers, UUIDs and addresses. -/
theorem isCodeChar_foldLetter (h : isCodeChar c) : isCodeChar (foldLetter c) := by
  have ascii : ∀ n < 0x80, isCodeChar (Char.ofNat n) → isCodeChar (foldLetter (Char.ofNat n)) := by
    decide
  have closed := ascii c.toNat (toNat_lt_of_isCodeChar h)
  rw [Char.ofNat_toNat] at closed
  exact closed h

theorem hasExtension_iff {extensions : List (List Char)} :
    hasExtension extensions s ↔ ∃ e ∈ extensions, '.' :: e <:+ s.map foldLetter := by
  simp [hasExtension]

/-- A segment with an extension that has a letter beyond `f` has such a character itself. -/
theorem exists_not_isCodeChar {extensions : List (List Char)}
    (strange : extensions.all fun e => e.any fun c => !isCodeChar c)
    (h : hasExtension extensions s) : ∃ c ∈ s, ¬ isCodeChar c := by
  obtain ⟨e, listed, ending⟩ := hasExtension_iff.1 h
  obtain ⟨c, within, foreign⟩ := List.any_eq_true.1 (List.all_eq_true.1 strange e listed)
  obtain ⟨b, hb, rfl⟩ := List.mem_map.1 (ending.subset (List.mem_cons_of_mem _ within))
  refine ⟨b, hb, fun code => ?_⟩
  rw [isCodeChar_foldLetter code] at foreign
  cases foreign

/-- Neither of an image's and a font's extensions ends in the other, so no segment ends in both. -/
theorem not_isImage_of_isFont (font : isFont s) : ¬ isImage s := by
  intro image
  obtain ⟨e, image, ending⟩ := hasExtension_iff.1 image
  obtain ⟨f, font, ending'⟩ := hasExtension_iff.1 font
  have apart : imageExtensions.all fun e => fontExtensions.all fun f =>
      !('.' :: e).isSuffixOf ('.' :: f) && !('.' :: f).isSuffixOf ('.' :: e) := by
    decide
  have neither := List.all_eq_true.1 (List.all_eq_true.1 apart e image) f font
  simp only [Bool.and_eq_true, Bool.not_eq_true', Bool.eq_false_iff, ne_eq,
    List.isSuffixOf_iff_suffix] at neither
  rcases List.suffix_or_suffix_of_suffix ending ending' with inner | inner
  · exact neither.1 inner
  · exact neither.2 inner

/-! ## The candidate -/

namespace Kind

/-- Whether a segment passes the test of a kind. -/
def test : Kind → List Char → Bool
  | hash, s => isHash s
  | number, s => isNumeric s || isHexadecimal s
  | uuid, s => isUuid s
  | ip, s => isAddress s
  | image, s => isImage s
  | font, s => isFont s

/-- The only kind besides hashes that a segment can be of, for all that its characters say. -/
def candidate (s : List Char) : Kind :=
  if s.all isHexDigit then number
  else if s.all fun c => isHexDigit c || c == '-' then uuid
  else if s.all fun c => isHexDigit c || c == '.' || c == ':' then ip
  else if isImage s then image
  else font

/-- A segment with a character of no number, UUID or address is an image or a font at most. -/
theorem candidate_of_not_isCodeChar (h : ∃ c ∈ s, ¬ isCodeChar c) :
    candidate s = if isImage s then image else font := by
  obtain ⟨c, hc, foreign⟩ := h
  simp only [isCodeChar, Bool.or_eq_true, beq_iff_eq, not_or] at foreign
  obtain ⟨⟨⟨hex, hyphen⟩, point⟩, colon⟩ := foreign
  have digits : ¬ s.all isHexDigit := fun all => hex (List.all_eq_true.1 all c hc)
  have groups : ¬ s.all fun c => isHexDigit c || c == '-' := by
    intro all
    simpa [hex, hyphen] using List.all_eq_true.1 all c hc
  have marks : ¬ s.all fun c => isHexDigit c || c == '.' || c == ':' := by
    intro all
    simpa [hex, point, colon] using List.all_eq_true.1 all c hc
  rw [candidate, if_neg digits, if_neg groups, if_neg marks]

theorem eq_candidate (other : k ≠ hash) (h : k.test s) : k = candidate s := by
  unfold candidate
  cases k with
  | hash => exact absurd rfl other
  | number => rw [if_pos (List.all_eq_true.2 fun c hc => isHexDigit_of_isNumber h hc)]
  | uuid =>
    obtain ⟨hyphen, chars⟩ := chars_of_isUuid h
    have digits : ¬ s.all isHexDigit := fun all =>
      absurd (List.all_eq_true.1 all _ hyphen) (by decide)
    rw [if_neg digits, if_pos (by simpa using chars)]
  | ip =>
    obtain ⟨mark, chars⟩ := chars_of_isAddress h
    have apart (p : Char → Bool) (point : ¬ p '.') (colon : ¬ p ':') : ¬ s.all p := by
      rw [List.all_eq_true]
      intro all
      exact mark.elim (fun here => point (all _ here)) (fun here => colon (all _ here))
    have digits := apart isHexDigit (by decide) (by decide)
    have groups := apart (fun c => isHexDigit c || c == '-') (by decide) (by decide)
    rw [if_neg digits, if_neg groups, if_pos (by simpa [or_assoc] using chars)]
  | image =>
    have foreign := candidate_of_not_isCodeChar (exists_not_isCodeChar (by decide) h)
    exact (foreign.trans (if_pos h)).symm
  | font =>
    have foreign := candidate_of_not_isCodeChar (exists_not_isCodeChar (by decide) h)
    exact (foreign.trans (if_neg (not_isImage_of_isFont h))).symm

theorem test_number_of_test_hash (h : hash.test s) : number.test s :=
  Bool.or_eq_true_iff.2 (.inr (isHexadecimal_of_isHash h))

/-- A segment that passes two tests is a hash, and the tests are those of hashes and numbers. -/
theorem eq_or_hash_number (hk : k.test s) (hl : l.test s) :
    k = l ∨ k = hash ∧ l = number ∨ k = number ∧ l = hash := by
  by_cases kh : k = hash <;> by_cases lh : l = hash
  · exact .inl (kh.trans lh.symm)
  · have number := eq_candidate (by decide) (test_number_of_test_hash (kh ▸ hk))
    exact .inr (.inl ⟨kh, (eq_candidate lh hl).trans number.symm⟩)
  · have number := eq_candidate (by decide) (test_number_of_test_hash (lh ▸ hl))
    exact .inr (.inr ⟨(eq_candidate kh hk).trans number.symm, lh⟩)
  · exact .inl ((eq_candidate kh hk).trans (eq_candidate lh hl).symm)

end Kind

/-! ## Detection without the order of the tests -/

namespace Detection

variable {d : Detection} {last : Bool}

/-- Whether a kind is looked for at a place: images and fonts in the last segment only. -/
def looksFor (d : Detection) (last : Bool) : Kind → Bool
  | .hash => d.hashes
  | .number => d.numbers
  | .uuid => d.uuids
  | .ip => d.ips
  | .image => last && d.images
  | .font => last && d.fonts

/-- The detection that no longer looks for a kind. -/
def without (d : Detection) : Kind → Detection
  | .hash => { d with hashes := false }
  | .number => { d with numbers := false }
  | .uuid => { d with uuids := false }
  | .ip => { d with ips := false }
  | .image => { d with images := false }
  | .font => { d with fonts := false }

theorem looksFor_without (d : Detection) (last : Bool) (k l : Kind) :
    (d.without k).looksFor last l = (d.looksFor last l && decide (l ≠ k)) := by
  cases k <;> cases l <;> simp [without, looksFor]

/-- Whether a kind is looked for at a place and the segment there passes its test. -/
def Finds (d : Detection) (last : Bool) (s : List Char) (k : Kind) : Prop :=
  d.looksFor last k ∧ k.test s

theorem finds_without_iff : (d.without k).Finds last s l ↔ d.Finds last s l ∧ l ≠ k := by
  rw [Finds, Finds, looksFor_without, Bool.and_eq_true, decide_eq_true_iff]
  exact and_right_comm

theorem not_test_nil (k : Kind) : ¬ k.test [] := by
  cases k <;> decide

theorem finds_of_classify (h : d.classify last s = some k) :
    d.Finds last s k ∧ (k = .number → ¬ d.Finds last s .hash) := by
  unfold classify at h
  split_ifs at h <;> obtain rfl := Option.some.inj h <;>
    simp_all [Finds, looksFor, Kind.test]

theorem not_finds_of_classify (h : d.classify last s = .none) (k : Kind) :
    ¬ d.Finds last s k := by
  unfold classify at h
  split_ifs at h with empty
  · rw [List.isEmpty_iff.1 empty]
    exact fun found => not_test_nil k found.2
  · cases k <;> simp_all [Finds, looksFor, Kind.test]

/-- A segment is of the kind that is found in it, but a hash that is looked for is no number. -/
theorem classify_eq_some_iff :
    d.classify last s = some k ↔
      d.Finds last s k ∧ (k = .number → ¬ d.Finds last s .hash) := by
  refine ⟨finds_of_classify, fun ⟨found, first⟩ => ?_⟩
  cases h : d.classify last s with
  | none => exact absurd found (not_finds_of_classify h k)
  | some l =>
    obtain ⟨found', first'⟩ := finds_of_classify h
    rcases Kind.eq_or_hash_number found.2 found'.2 with rfl | ⟨rfl, rfl⟩ | ⟨rfl, rfl⟩
    · rfl
    · exact absurd found (first' rfl)
    · exact absurd found' (first rfl)

theorem classify_eq_hash_iff : d.classify last s = some .hash ↔ d.Finds last s .hash :=
  classify_eq_some_iff.trans (and_iff_left nofun)

/-! ## Looking for one kind less -/

theorem classify_without_of_ne_hash (other : k ≠ .hash) :
    (d.without k).classify last s =
      if d.classify last s = some k then .none else d.classify last s := by
  have less (l : Kind) :
      (d.without k).classify last s = some l ↔ d.classify last s = some l ∧ l ≠ k := by
    simp only [classify_eq_some_iff, finds_without_iff, ne_eq, Ne.symm other, not_false_iff,
      and_true]
    exact and_right_comm
  refine Option.ext fun l => ?_
  rw [less]
  split_ifs with own
  · simp [own, eq_comm]
  · exact and_iff_left_of_imp fun found same => own (same ▸ found)

/-- What else is found in a hash is the number that it is. -/
theorem finds_iff_of_finds_hash (h : d.Finds last s .hash) (other : k ≠ .hash) :
    d.Finds last s k ↔ k = .number ∧ d.numbers := by
  have isNumber : Kind.number.test s := Kind.test_number_of_test_hash h.2
  constructor
  · intro found
    obtain rfl : k = .number :=
      (Kind.eq_candidate other found.2).trans (Kind.eq_candidate (by decide) isNumber).symm
    exact ⟨rfl, found.1⟩
  · rintro ⟨rfl, numbers⟩
    exact ⟨numbers, isNumber⟩

theorem classify_without_hash (d : Detection) (last : Bool) (s : List Char) :
    (d.without .hash).classify last s =
      if d.classify last s = some .hash then if d.numbers then some .number else .none
      else d.classify last s := by
  have less (l : Kind) :
      (d.without .hash).classify last s = some l ↔ d.Finds last s l ∧ l ≠ .hash := by
    simp [classify_eq_some_iff, finds_without_iff]
  refine Option.ext fun l => ?_
  rw [less]
  split_ifs with hash numbers <;> rw [classify_eq_hash_iff] at hash
  · constructor
    · rintro ⟨found, other⟩
      rw [((finds_iff_of_finds_hash hash other).1 found).1]
    · intro same
      obtain rfl := Option.some.inj same
      exact ⟨(finds_iff_of_finds_hash hash (by decide)).2 ⟨rfl, numbers⟩, by decide⟩
  · refine iff_of_false ?_ nofun
    rintro ⟨found, other⟩
    exact numbers ((finds_iff_of_finds_hash hash other).1 found).2
  · -- Where no hash is found, the exception for numbers is none.
    rw [classify_eq_some_iff]
    constructor
    · rintro ⟨found, -⟩
      exact ⟨found, fun _ => hash⟩
    · rintro ⟨found, -⟩
      exact ⟨found, fun same => hash (same ▸ found)⟩

/-- Each toggle only takes its own kind away, but hashes become numbers; for no segment passes two
tests unless it is a hash, and every hash is a hexadecimal number. -/
theorem classify_without (d : Detection) (last : Bool) (s : List Char) :
    (∀ k, k ≠ .hash → (d.without k).classify last s =
        if d.classify last s = some k then .none else d.classify last s) ∧
      ((d.without .hash).classify last s =
        if d.classify last s = some .hash then if d.numbers then some .number else .none
        else d.classify last s) ∧
      (∀ k l : Kind, k ≠ .hash → l ≠ .hash → k.test s → l.test s → k = l) ∧
      (isHash s → isHexadecimal s) := by
  refine ⟨fun k => classify_without_of_ne_hash, classify_without_hash d last s, ?_,
    isHexadecimal_of_isHash⟩
  intro k l hk hl kt lt
  exact (Kind.eq_candidate hk kt).trans (Kind.eq_candidate hl lt).symm

/-- A digest, which becomes a number, and an address, which becomes nothing. -/
theorem classify_without_digest_address :
    let digest := List.replicate 32 'a'
    let address := [':', ':', '1']
    (Detection.all.without .hash).classify false digest = some .number ∧
      (Detection.all.without .ip).classify false digest = some .hash ∧
      (Detection.all.without .ip).classify true address = .none ∧ isHexadecimal digest ∧
      ∀ k : Kind, k ≠ .hash → k.test address → k = .ip := by
  intro digest address
  obtain ⟨plain, hash, -, hexadecimal⟩ := classify_without .all false digest
  obtain ⟨plain', -, unique, -⟩ := classify_without .all true address
  refine ⟨hash.trans (by decide), (plain .ip (by decide)).trans (by decide),
    (plain' .ip (by decide)).trans (by decide), hexadecimal (by decide), fun k other passed => ?_⟩
  exact unique k .ip other (by decide) passed (by decide)

end Detection

end RequestKeys.Path
