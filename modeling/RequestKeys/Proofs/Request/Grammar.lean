import RequestKeys.Proofs.Request.Line

/-!
# The grammar of request lines

A line holds a request if its field, which is what stands behind its first quote up to the next one,
or the whole line if it has no quote, begins with two words of which the first is a method
(`Line.Holds`).  Reading a line finds exactly the request that it holds, so a request between quotes
is read like the request alone, whatever the line has around it
(`Line.parse?_eq_some_iff_holds`).  A request that is the whole line is read as well, unless its
target has a quote (`Line.parse?_bare_eq_some_iff`).
-/

namespace RequestKeys

open Split (cut)

/-! ## The first word of a text -/

namespace Blank

variable {c : Char} {text w rest : List Char} {ws : List (List Char)}

/-- A text that is one word. -/
structure IsWord (w : List Char) : Prop where
  ne_nil : w ≠ []
  not_isBlank : ∀ c ∈ w, ¬ isBlank c

/-- A text before which a word ends: it is empty or goes on with a blank. -/
def Ends (rest : List Char) : Prop := ∀ c, rest.head? = some c → isBlank c

/-- A text that is blanks, then a word, then the rest. -/
inductive FirstWord (w rest : List Char) : List Char → Prop where
  | intro (gap : List Char) (blank : ∀ c ∈ gap, isBlank c) (word : IsWord w) (ends : Ends rest) :
    FirstWord w rest (gap ++ (w ++ rest))

theorem takeWhile_of_ends (ends : Ends rest) : rest.takeWhile (!isBlank ·) = [] := by
  cases rest with
  | nil => rfl
  | cons c rest => simp [ends c rfl]

theorem dropWhile_of_ends (ends : Ends rest) : rest.dropWhile (!isBlank ·) = rest := by
  cases rest with
  | nil => rfl
  | cons c rest => simp [ends c rfl]

theorem words_append (word : IsWord w) (ends : Ends rest) :
    words (w ++ rest) = w :: words rest := by
  obtain ⟨c, cs, rfl⟩ := List.exists_cons_of_ne_nil word.ne_nil
  obtain ⟨first, more⟩ := List.forall_mem_cons.1 word.not_isBlank
  have plain : ∀ d ∈ cs, (!isBlank d) = true := by simpa using more
  rw [List.cons_append, words_cons_of_not_isBlank first, List.takeWhile_append_of_pos plain,
    List.dropWhile_append_of_pos plain, takeWhile_of_ends ends, dropWhile_of_ends ends,
    List.append_nil]

theorem IsWord.words_eq (word : IsWord w) : words w = [w] := by
  have alone : words (w ++ []) = w :: words [] := words_append word nofun
  rwa [List.append_nil] at alone

/-- A text without a blank is at most one word. -/
theorem length_words_le_one (bare : ∀ c ∈ text, ¬ isBlank c) : (words text).length ≤ 1 := by
  cases text with
  | nil => exact Nat.zero_le 1
  | cons c rest =>
    rw [IsWord.words_eq ⟨List.cons_ne_nil c rest, bare⟩]
    exact Nat.le_refl 1

theorem FirstWord.words_eq (h : FirstWord w rest text) : words text = w :: words rest := by
  cases h with
  | intro gap blank word ends =>
    induction gap with
    | nil => exact words_append word ends
    | cons c gap ih =>
      rw [List.cons_append, words_cons_of_isBlank (blank c List.mem_cons_self)]
      exact ih fun d hd => blank d (List.mem_cons_of_mem _ hd)

theorem exists_firstWord (h : words text = w :: ws) :
    ∃ rest, FirstWord w rest text ∧ words rest = ws := by
  induction text with
  | nil => cases h
  | cons c text ih =>
    by_cases blank : isBlank c
    · rw [words_cons_of_isBlank blank] at h
      obtain ⟨rest, ⟨gap, before, word, ends⟩, more⟩ := ih h
      exact ⟨rest, .intro (c :: gap) (List.forall_mem_cons.2 ⟨blank, before⟩) word ends, more⟩
    · rw [words_cons_of_not_isBlank blank] at h
      obtain ⟨rfl, rfl⟩ := List.cons.inj h
      refine ⟨text.dropWhile (!isBlank ·), ?_, rfl⟩
      have whole : c :: text = [] ++ (c :: text.takeWhile (!isBlank ·) ++
          text.dropWhile (!isBlank ·)) := by
        simp
      rw [whole]
      refine .intro [] nofun ⟨List.cons_ne_nil _ _, List.forall_mem_cons.2 ⟨blank, ?_⟩⟩ ?_
      · intro d hd
        simpa using List.all_eq_true.1 List.all_takeWhile d hd
      · intro d hd
        have stopped := List.head?_dropWhile_not (!isBlank ·) text
        rw [hd] at stopped
        simpa using stopped

/-- The words of a text are its first word and the words of the rest. -/
theorem words_eq_cons_iff :
    words text = w :: ws ↔ ∃ rest, FirstWord w rest text ∧ words rest = ws := by
  refine ⟨exists_firstWord, ?_⟩
  rintro ⟨rest, first, rfl⟩
  exact first.words_eq

end Blank

/-! ## Requests -/

namespace Line

open Blank (IsWord Ends FirstWord)

variable {line field m t : List Char} {e : Event}

/-- A capital letter followed by capital letters, digits and the symbols of methods. -/
inductive IsToken : List Char → Prop where
  | intro {c : Char} {rest : List Char} (first : 'A' ≤ c ∧ c ≤ 'Z')
      (more : ∀ d ∈ rest, 'A' ≤ d ∧ d ≤ 'Z' ∨ '0' ≤ d ∧ d ≤ '9' ∨ d ∈ methodSymbols) :
    IsToken (c :: rest)

/-- What is read of a line. -/
inductive IsField : List Char → List Char → Prop where
  | whole {line : List Char} (bare : '"' ∉ line) : IsField line line
  | unclosed {before field : List Char} (first : '"' ∉ before) (bare : '"' ∉ field) :
    IsField (before ++ '"' :: field) field
  | quoted {before field after : List Char} (first : '"' ∉ before) (bare : '"' ∉ field) :
    IsField (before ++ '"' :: (field ++ '"' :: after)) field

/-- The field of the line begins with a method and a target. -/
structure Holds (line m t : List Char) : Prop where
  token : IsToken m
  words : ∃ field more rest, IsField line field ∧ FirstWord m more field ∧ FirstWord t rest more

theorem isUpper_iff {c : Char} : c.isUpper ↔ 'A' ≤ c ∧ c ≤ 'Z' := decide_eq_true_iff

theorem isDigit_iff {c : Char} : c.isDigit ↔ '0' ≤ c ∧ c ≤ '9' := by
  simp [Char.isDigit, Char.le_def]

theorem isMethod_iff_isToken : isMethod m ↔ IsToken m := by
  cases m with
  | nil => exact ⟨nofun, nofun⟩
  | cons c rest =>
    have chars : rest.all isMethodChar ↔
        ∀ d ∈ rest, 'A' ≤ d ∧ d ≤ 'Z' ∨ '0' ≤ d ∧ d ≤ '9' ∨ d ∈ methodSymbols := by
      simp [isMethodChar, isUpper_iff, isDigit_iff, or_assoc]
    rw [isMethod, Bool.and_eq_true, isUpper_iff, chars]
    constructor
    · intro h
      exact .intro h.1 h.2
    · intro token
      cases token with
      | intro first more => exact ⟨first, more⟩

theorem IsField.requestField_eq (h : IsField line field) : requestField line = field := by
  unfold requestField
  cases h with
  | whole bare => rw [Split.cut_eq_none_iff.2 bare]
  | unclosed first bare =>
    rw [Split.cut_append_cons first]
    exact Split.upTo_eq_self bare
  | quoted first bare =>
    rw [Split.cut_append_cons first]
    exact Split.upTo_append_cons bare _

theorem exists_isField (line : List Char) : ∃ field, IsField line field := by
  cases opening : cut '"' line with
  | none => exact ⟨line, .whole (Split.cut_eq_none_iff.1 opening)⟩
  | some parts =>
    obtain ⟨rfl, first⟩ := Split.cut_eq_some_iff.1 opening
    cases closing : cut '"' parts.2 with
    | none => exact ⟨parts.2, .unclosed first (Split.cut_eq_none_iff.1 closing)⟩
    | some inner =>
      obtain ⟨split, bare⟩ := Split.cut_eq_some_iff.1 closing
      exact ⟨inner.1, split ▸ .quoted first bare⟩

theorem isField_requestField (line : List Char) : IsField line (requestField line) := by
  obtain ⟨field, found⟩ := exists_isField line
  rwa [found.requestField_eq]

/-- Reading a line finds the request that it holds. -/
theorem parse?_eq_some_iff :
    parse? line = some e ↔ ∃ m t, Holds line m t ∧ e = .ofRequest m t := by
  unfold parse?
  constructor
  · intro h
    split at h
    · next m t ws found =>
      split_ifs at h with method
      obtain rfl := Option.some.inj h
      obtain ⟨more, first, later⟩ := Blank.words_eq_cons_iff.1 found
      obtain ⟨rest, second, -⟩ := Blank.words_eq_cons_iff.1 later
      exact ⟨m, t, ⟨isMethod_iff_isToken.1 method, _, more, rest, isField_requestField line, first,
        second⟩, rfl⟩
    · cases h
  · rintro ⟨m, t, ⟨token, field, more, rest, isField, first, second⟩, rfl⟩
    rw [isField.requestField_eq, first.words_eq, second.words_eq]
    exact if_pos (isMethod_iff_isToken.2 token)

theorem not_isBlank_of_isMethodChar {c : Char} (h : isMethodChar c) : ¬ Blank.isBlank c := by
  have symbols : methodSymbols.all fun d => !Blank.isBlank d := by decide
  simp only [isMethodChar, Bool.or_eq_true, isUpper_iff, isDigit_iff, List.contains_iff_mem,
    Char.le_def, UInt32.le_iff_toNat_le, Char.toNat_val, Char.reduceToNat] at h
  rcases h with (upper | digit) | symbol
  · simp [Blank.isBlank]
    omega
  · simp [Blank.isBlank]
    omega
  · simpa using List.all_eq_true.1 symbols c symbol

theorem IsToken.isWord (token : IsToken m) : IsWord m ∧ '"' ∉ m := by
  have method := isMethod_iff_isToken.2 token
  refine ⟨⟨?_, fun c hc => ?_⟩, fun quote => ?_⟩
  · rintro rfl
    cases method
  · exact not_isBlank_of_isMethodChar (isMethodChar_of_mem method hc)
  · exact absurd (isMethodChar_of_mem method quote) (by decide)

theorem firstWord_of_isToken (token : IsToken m) : FirstWord m (' ' :: t) (m ++ ' ' :: t) := by
  refine .intro [] nofun token.isWord.1 ?_
  rintro c ⟨⟩
  decide

/-- A request between quotes holds whatever stands around them and behind the target. -/
theorem holds_of_quoted {before tail after : List Char} (first : '"' ∉ before) (token : IsToken m)
    (word : IsWord t) (bare : '"' ∉ t) (bare' : '"' ∉ tail) (ends : Ends tail) :
    Holds (before ++ '"' :: (m ++ ' ' :: (t ++ tail) ++ '"' :: after)) m t := by
  refine ⟨token, m ++ ' ' :: (t ++ tail), ' ' :: (t ++ tail), tail, .quoted first ?_,
    firstWord_of_isToken token, ?_⟩
  · simp [token.isWord.2, bare, bare']
  · exact .intro [' '] (List.forall_mem_singleton.2 (by decide)) word ends

/-! ## The main statement -/

/-- A request between the first quotes of a line is read like the request alone, and a line is read
as exactly the request that it holds, or else refused. -/
theorem parse?_eq_some_iff_holds :
    (∀ before m t tail after : List Char, '"' ∉ before → IsToken m → IsWord t → '"' ∉ t →
      '"' ∉ tail → Ends tail →
      parse? (before ++ '"' :: (m ++ ' ' :: (t ++ tail) ++ '"' :: after)) =
          some (.ofRequest m t) ∧ (Event.ofRequest m t).key = []) ∧
      (∀ line e, parse? line = some e ↔ ∃ m t, Holds line m t ∧ e = .ofRequest m t) ∧
      ∀ line, parse? line = none ↔ ∀ m t, ¬ Holds line m t := by
  refine ⟨fun before m t tail after first token word bare bare' ends => ⟨?_, rfl⟩,
    fun line e => parse?_eq_some_iff, fun line => ?_⟩
  · exact parse?_eq_some_iff.2 ⟨m, t, holds_of_quoted first token word bare bare' ends, rfl⟩
  · rw [Option.eq_none_iff_forall_ne_some]
    constructor
    · intro refused m t holds
      exact refused _ (parse?_eq_some_iff.2 ⟨m, t, holds, rfl⟩)
    · intro empty e read
      obtain ⟨m, t, holds, -⟩ := parse?_eq_some_iff.1 read
      exact empty m t holds

/-- An entry of an access log, a request between tabs, and one in small letters. -/
theorem parse?_eq_some_iff_holds_log_entry :
    parse? ['-', ' ', '"', 'G', 'E', 'T', ' ', '/', 'a', ' ', 'H', '"', ' ', '"', '-', '"'] =
        some ⟨['G', 'E', 'T'], ⟨['/', 'a'], none⟩, []⟩ ∧
      (∃ m t, Holds ['\t', 'G', 'E', 'T', '\t', '/', 'a'] m t ∧
        Event.ofRequest ['G', 'E', 'T'] ['/', 'a'] = .ofRequest m t) ∧
      ∀ m t, ¬ Holds ['g', 'e', 't', ' ', '/', 'a'] m t := by
  obtain ⟨quoted, accepted, refused⟩ := parse?_eq_some_iff_holds
  have token : IsToken ['G', 'E', 'T'] := isMethod_iff_isToken.1 (by decide)
  have word : IsWord ['/', 'a'] := ⟨by decide, by simp [Blank.isBlank]⟩
  have ends : Ends [' ', 'H'] := by
    intro c hc
    obtain rfl := Option.some.inj hc
    decide
  have entry := quoted ['-', ' '] ['G', 'E', 'T'] ['/', 'a'] [' ', 'H'] [' ', '"', '-', '"']
    (by decide) token word (by decide) (by decide) ends
  exact ⟨entry.1, (accepted _ _).1 (by decide), (refused _).1 (by decide)⟩

/-! ## Bare requests -/

theorem holds_of_bare (token : IsToken m) (word : IsWord t) (bare : '"' ∉ t) :
    Holds (m ++ ' ' :: t) m t := by
  have target : FirstWord t [] ([' '] ++ (t ++ [])) :=
    .intro [' '] (List.forall_mem_singleton.2 (by decide)) word nofun
  rw [List.append_nil] at target
  refine ⟨token, _, _, _, .whole ?_, firstWord_of_isToken token, target⟩
  simp [token.isWord.2, bare]

theorem parse?_of_words_le_one (h : (Blank.words (requestField line)).length ≤ 1) :
    parse? line = none := by
  unfold parse?
  match words : Blank.words (requestField line) with
  | [] => rfl
  | [_] => rfl
  | _ :: _ :: _ => simp [words] at h

/-- What stands behind a quote in a target has no blank, and so it is no method and target. -/
theorem parse?_eq_none_of_quote_mem (token : IsToken m) (word : IsWord t) (quote : '"' ∈ t) :
    parse? (m ++ ' ' :: t) = none := by
  cases found : cut '"' t with
  | none => exact absurd quote (Split.cut_eq_none_iff.1 found)
  | some parts =>
    obtain ⟨rfl, first⟩ := Split.cut_eq_some_iff.1 found
    have front : '"' ∉ m ++ ' ' :: parts.1 := by simp [token.isWord.2, first]
    have whole : m ++ ' ' :: (parts.1 ++ '"' :: parts.2) = m ++ ' ' :: parts.1 ++ '"' :: parts.2 := by
      simp
    have field : requestField (m ++ ' ' :: (parts.1 ++ '"' :: parts.2)) =
        Split.upTo '"' parts.2 := by
      rw [whole, requestField, Split.cut_append_cons front]
    refine parse?_of_words_le_one (Blank.length_words_le_one fun c hc => ?_)
    have inside : c ∈ parts.2 := (List.takeWhile_prefix _).subset (field ▸ hc)
    exact word.not_isBlank c (by simp [inside])

/-- A method and a target alone on a line are read as the request exactly if the target has no quote:
with one the line is taken for one with a quoted field, and the request is lost. -/
theorem parse?_bare_eq_some_iff (token : IsToken m) (word : IsWord t) :
    (parse? (m ++ ' ' :: t) = some (.ofRequest m t) ↔ '"' ∉ t) ∧
      (parse? (m ++ ' ' :: t) = none ↔ '"' ∈ t) := by
  have lost := parse?_eq_none_of_quote_mem token word
  have read (bare : '"' ∉ t) : parse? (m ++ ' ' :: t) = some (.ofRequest m t) :=
    parse?_eq_some_iff.2 ⟨m, t, holds_of_bare token word bare, rfl⟩
  by_cases quote : '"' ∈ t
  · simp [lost quote, quote]
  · simp [read quote, quote]

/-- A target with an apostrophe, a backslash, a control character and a fragment. -/
theorem parse?_bare_eq_some_iff_apostrophe :
    let m : List Char := ['M', '-', 'X']
    let t : List Char := ['/', '\'', '\\', '\x01', '#', 'b']
    IsToken m ∧ IsWord t ∧
      parse? (m ++ ' ' :: t) = some ⟨m, ⟨['/', '\'', '\\', '\x01'], none⟩, []⟩ := by
  intro m t
  have token : IsToken m := isMethod_iff_isToken.1 rfl
  have word : IsWord t := ⟨by decide, by simp [t, Blank.isBlank]⟩
  exact ⟨token, word, (parse?_bare_eq_some_iff token word).1.2 (by decide)⟩

/-- A search for a quoted word is a bare request that is lost. -/
theorem parse?_of_quote_in_query :
    let m : List Char := ['G', 'E', 'T']
    let t : List Char := ['/', '?', 'q', '=', '"', 'x', '"']
    IsToken m ∧ IsWord t ∧ parse? (m ++ ' ' :: t) = none ∧
      parse? (m ++ ' ' :: t) ≠ some (.ofRequest m t) := by
  intro m t
  have word : IsWord t := ⟨by decide, by simp [t, Blank.isBlank]⟩
  exact ⟨isMethod_iff_isToken.1 rfl, word, by decide, by decide⟩

end Line

end RequestKeys
