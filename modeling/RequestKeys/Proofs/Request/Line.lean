import RequestKeys.Proofs.Text.Percent
import RequestKeys.Proofs.Text.Split
import RequestKeys.Request.Line

/-!
# Where the fields of a request come from

The method and the target of a request are words of its line, and its path and the values of its
query are stretches of the target, decoded.  A newline can only come into them as an escape, and
into the method not at all.
-/

namespace RequestKeys

open Split (cut)

/-! ## Words -/

namespace Blank

variable {c : Char} {text w : List Char}

theorem words_cons_cons (c d : Char) (rest : List Char) :
    words (c :: d :: rest) =
      if isBlank c then words (d :: rest)
      else if isBlank d then [c] :: words (d :: rest)
      else match words (d :: rest) with
        | [] => [[c]]
        | w :: ws => (c :: w) :: ws :=
  (rfl)

theorem words_singleton (c : Char) : words [c] = if isBlank c then [] else [[c]] :=
  (rfl)

/-- The first word begins at the first character that is no blank. -/
theorem words_cons_of_not_isBlank (h : ¬ isBlank c) (rest : List Char) :
    words (c :: rest) =
      (c :: rest.takeWhile (!isBlank ·)) :: words (rest.dropWhile (!isBlank ·)) := by
  induction rest generalizing c with
  | nil =>
    rw [words_singleton, if_neg h]
    rfl
  | cons d rest ih =>
    rw [words_cons_cons, if_neg h]
    by_cases next : isBlank d
    · simp [next]
    · simp [next, ih next]

theorem words_cons_of_isBlank (h : isBlank c) (rest : List Char) :
    words (c :: rest) = words rest := by
  cases rest with
  | nil =>
    rw [words_singleton, if_pos h]
    rfl
  | cons d rest => rw [words_cons_cons, if_pos h]

/-- A word is a stretch of the text without a blank. -/
theorem infix_of_mem_words (h : w ∈ words text) : w <:+: text ∧ ∀ c ∈ w, ¬ isBlank c := by
  -- On the length of the text: behind the first word there is less of it.
  induction size : text.length using Nat.strongRecOn generalizing text with
  | ind n ih =>
    cases text with
    | nil => cases h
    | cons c rest =>
      by_cases blank : isBlank c
      · rw [words_cons_of_isBlank blank] at h
        obtain ⟨found, bare⟩ := ih rest.length (by simp [← size]) h rfl
        exact ⟨found.trans (List.suffix_cons _ _).isInfix, bare⟩
      · rw [words_cons_of_not_isBlank blank] at h
        rcases List.mem_cons.1 h with rfl | h
        · refine ⟨((List.prefix_cons_inj c).2 (List.takeWhile_prefix _)).isInfix, fun d hd => ?_⟩
          rcases List.mem_cons.1 hd with rfl | hd
          · exact blank
          · simpa using List.all_eq_true.1 List.all_takeWhile d hd
        · have less := (List.dropWhile_suffix (!isBlank ·) (l := rest)).length_le
          obtain ⟨found, bare⟩ := ih _ (by simp only [← size, List.length_cons]; omega) h rfl
          exact ⟨found.trans ((List.dropWhile_suffix _).trans (List.suffix_cons _ _)).isInfix, bare⟩

end Blank

/-! ## Targets -/

namespace Target

variable {c : Char} {text name v : List Char}

theorem dropAuthority_isSuffix (text : List Char) : dropAuthority text <:+ text := by
  unfold dropAuthority
  cases found : Split.cutAt [':', '/', '/'] text with
  | none => exact List.suffix_rfl
  | some parts =>
    dsimp only
    split_ifs
    · exact (List.dropWhile_suffix _).trans (Split.suffix_of_cutAt_eq_some found)
    · exact List.suffix_rfl

theorem parse_isInfix (text : List Char) :
    (∃ raw, raw <:+: text ∧ (parse text).path = Percent.decode raw) ∧
      ∀ query, (parse text).query = some query → query <:+: text := by
  have front : Split.upTo '#' text <+: text := List.takeWhile_prefix _
  cases found : cut '?' (Split.upTo '#' text) with
  | none =>
    simp only [parse, found]
    exact ⟨⟨_, (dropAuthority_isSuffix _).isInfix.trans front.isInfix, rfl⟩, nofun⟩
  | some parts =>
    have path := (Split.prefix_of_cut_eq_some found).isInfix.trans front.isInfix
    have query := (Split.suffix_of_cut_eq_some found).isInfix.trans front.isInfix
    simp only [parse, found]
    refine ⟨⟨_, (dropAuthority_isSuffix _).isInfix.trans path, rfl⟩, ?_⟩
    rintro _ ⟨⟩
    exact query

/-- A value is a stretch of the query, decoded. -/
theorem exists_infix_of_mem_values {t : Target} (h : v ∈ t.values name) :
    ∃ query raw, t.query = some query ∧ raw <:+: query ∧ v = Percent.decodeForm raw := by
  unfold values at h
  cases asked : t.query with
  | none =>
    rw [asked] at h
    cases h
  | some query =>
    rw [asked] at h
    obtain ⟨pair, found, rfl⟩ := List.mem_map.1 h
    obtain ⟨piece, kept, rfl⟩ := List.mem_map.1 (List.mem_filter.1 found).1
    have part := Split.infix_of_mem_pieces (List.mem_filter.1 kept).1
    unfold pairOf
    cases cutting : cut '=' piece with
    | none => exact ⟨query, [], rfl, List.nil_infix, rfl⟩
    | some parts =>
      have value := (Split.suffix_of_cut_eq_some cutting).isInfix
      exact ⟨query, parts.2, rfl, value.trans part, rfl⟩

end Target

/-! ## Requests -/

namespace Line

variable {c : Char} {text name v : List Char} {e : Event}

theorem requestField_isInfix (text : List Char) : requestField text <:+: text := by
  unfold requestField
  cases found : cut '"' text with
  | none => exact List.infix_rfl
  | some parts =>
    have rest := (Split.suffix_of_cut_eq_some found).isInfix
    exact (List.takeWhile_prefix _).isInfix.trans rest

/-- The words of a request: its method, which has no blank, and its target. -/
theorem exists_target_of_parse? (h : parse? text = some e) :
    isMethod e.method ∧ ∃ target, target <:+: text ∧ (∀ c ∈ target, ¬ Blank.isBlank c) ∧
      e.target = .parse target := by
  unfold parse? at h
  split at h
  · next method target _ found =>
    split_ifs at h with valid
    obtain rfl := Option.some.inj h
    obtain ⟨part, bare⟩ := Blank.infix_of_mem_words
      (found ▸ List.mem_cons_of_mem _ List.mem_cons_self : target ∈ _)
    exact ⟨valid, target, part.trans (requestField_isInfix text), bare, rfl⟩
  · cases h

theorem isMethodChar_of_mem {method : List Char} (h : isMethod method) (hc : c ∈ method) :
    isMethodChar c := by
  cases method with
  | nil => cases hc
  | cons d rest =>
    rw [isMethod, Bool.and_eq_true] at h
    rcases List.mem_cons.1 hc with rfl | hc
    · simp [isMethodChar, h.1]
    · exact List.all_eq_true.1 h.2 c hc

/-! ## Newlines -/

/-- No newline stands in a method. -/
theorem newline_not_mem_method (h : parse? text = some e) : '\n' ∉ e.method := fun newline =>
  absurd (isMethodChar_of_mem (exists_target_of_parse? h).1 newline) (by decide)

/-- A newline in a path was escaped in the line. -/
theorem escapes_of_newline_mem_path (h : parse? text = some e) (newline : '\n' ∈ e.target.path) :
    Percent.Escapes '\n'.toUInt8 text := by
  obtain ⟨-, target, part, bare, parsed⟩ := exists_target_of_parse? h
  obtain ⟨⟨raw, within, decoded⟩, -⟩ := Target.parse_isInfix target
  rw [parsed, decoded] at newline
  rcases Percent.mem_or_escapes_of_mem_decode (by decide) newline with plain | escaped
  · exact absurd (by decide) (bare _ (within.subset plain))
  · exact escaped.mono (within.trans part)

/-- A newline in a value was escaped in the line. -/
theorem escapes_of_newline_mem_value (h : parse? text = some e) (hv : v ∈ e.target.values name)
    (newline : '\n' ∈ v) : Percent.Escapes '\n'.toUInt8 text := by
  obtain ⟨-, target, part, bare, parsed⟩ := exists_target_of_parse? h
  rw [parsed] at hv
  obtain ⟨query, raw, asked, piece, rfl⟩ := Target.exists_infix_of_mem_values hv
  have within := piece.trans ((Target.parse_isInfix target).2 query asked)
  rcases Percent.mem_or_escapes_of_mem_decodeForm (by decide) (by decide) newline with
    plain | escaped
  · exact absurd (by decide) (bare _ (within.subset plain))
  · exact escaped.mono (within.trans part)

end Line

end RequestKeys
