import RequestKeys.Proofs.Request.Grammar
import RequestKeys.Proofs.Text.Encoded
import RequestKeys.Request.Key

/-!
# What targets mean

A target is a path, a query and a fragment (`Target.Parts`), and it is read as the path, without a
scheme and an authority and decoded, and the query as it stands (`Parts.parse_text`).  So a scheme and
an authority in front of a target change nothing (`parse_absolute_eq`), and an encoded path is read
back, whatever it is made of and whatever stands behind it (`parse_encodePath`).
-/

namespace RequestKeys.Target

variable {scheme authority path rest : List Char}

/-! ## The parts of a target -/

/-- The parts of a target, of which all but the path may be missing.  The path ends before the first
question mark or hash, and the query before the first hash. -/
structure Parts where
  path : List Char
  query : Option (List Char)
  fragment : Option (List Char)
  path_bare : '?' ∉ path ∧ '#' ∉ path
  query_bare : ∀ q ∈ query, '#' ∉ q

namespace Parts

/-- The target with the given parts. -/
def text (p : Parts) : List Char :=
  p.path ++ p.query.elim [] ('?' :: ·) ++ p.fragment.elim [] ('#' :: ·)

theorem upTo_text (p : Parts) : Split.upTo '#' p.text = p.path ++ p.query.elim [] ('?' :: ·) := by
  have bare : '#' ∉ p.path ++ p.query.elim [] ('?' :: ·) := by
    cases asked : p.query with
    | none => simp [p.path_bare.2]
    | some q => simp [p.path_bare.2, p.query_bare q asked]
  unfold text
  cases p.fragment with
  | none => rw [Option.elim_none, List.append_nil, Split.upTo_eq_self bare]
  | some f => exact Split.upTo_append_cons bare f

/-- Every text is a target of some parts. -/
theorem exists_text_eq (t : List Char) : ∃ p : Parts, p.text = t := by
  obtain ⟨front, fragment, bare, rfl⟩ : ∃ (front : List Char) (fragment : Option (List Char)),
      '#' ∉ front ∧ front ++ fragment.elim [] ('#' :: ·) = t := by
    cases found : Split.cut '#' t with
    | none => exact ⟨t, none, Split.cut_eq_none_iff.1 found, List.append_nil t⟩
    | some parts =>
      obtain ⟨rfl, bare⟩ := Split.cut_eq_some_iff.1 found
      exact ⟨parts.1, some parts.2, bare, rfl⟩
  cases found : Split.cut '?' front with
  | none =>
    refine ⟨⟨front, none, fragment, ⟨Split.cut_eq_none_iff.1 found, bare⟩, nofun⟩, ?_⟩
    simp [text]
  | some parts =>
    obtain ⟨rfl, first⟩ := Split.cut_eq_some_iff.1 found
    have hashless : '#' ∉ parts.1 ∧ '#' ∉ parts.2 := by simpa using bare
    exact ⟨⟨parts.1, some parts.2, fragment, ⟨first, hashless.1⟩, by simpa using hashless.2⟩, rfl⟩

/-- A target is read as its path, decoded, and its query. -/
theorem parse_text (p : Parts) : parse p.text = ⟨Percent.decode (dropAuthority p.path), p.query⟩ := by
  unfold parse
  rw [p.upTo_text]
  dsimp only
  cases p.query with
  | none => rw [Option.elim_none, List.append_nil, Split.cut_eq_none_iff.2 p.path_bare.1]
  | some q => rw [Option.elim_some, Split.cut_append_cons p.path_bare.1]

end Parts

/-! ## Schemes and authorities -/

/-- A letter followed by letters, digits, plus signs, hyphens and points. -/
inductive IsSchemeName : List Char → Prop where
  | intro {c : Char} {rest : List Char} (first : 'A' ≤ c ∧ c ≤ 'Z' ∨ 'a' ≤ c ∧ c ≤ 'z')
      (more : ∀ d ∈ rest, 'A' ≤ d ∧ d ≤ 'Z' ∨ 'a' ≤ d ∧ d ≤ 'z' ∨ '0' ≤ d ∧ d ≤ '9' ∨
        d = '+' ∨ d = '-' ∨ d = '.') :
    IsSchemeName (c :: rest)

/-- A target with a scheme and an authority in front of it. -/
def absolute (scheme authority rest : List Char) : List Char :=
  scheme ++ ':' :: '/' :: '/' :: (authority ++ rest)

/-- A text before which an authority ends: it is empty or goes on with a slash, a question mark or a
hash. -/
def EndsAuthority (rest : List Char) : Prop := ∀ c ∈ rest.head?, c = '/' ∨ c = '?' ∨ c = '#'

/-- A path that is empty or begins at the root. -/
def IsRooted (path : List Char) : Prop := ∀ c ∈ path.head?, c = '/'

theorem isAlpha_iff {c : Char} : c.isAlpha ↔ 'A' ≤ c ∧ c ≤ 'Z' ∨ 'a' ≤ c ∧ c ≤ 'z' := by
  have lower : c.isLower ↔ 'a' ≤ c ∧ c ≤ 'z' :=
    Bool.and_eq_true_iff.trans (and_congr decide_eq_true_iff decide_eq_true_iff)
  show (c.isUpper || c.isLower) = true ↔ _
  rw [Bool.or_eq_true, Line.isUpper_iff, lower]

theorem isAlphanum_iff {c : Char} :
    c.isAlphanum ↔ 'A' ≤ c ∧ c ≤ 'Z' ∨ 'a' ≤ c ∧ c ≤ 'z' ∨ '0' ≤ c ∧ c ≤ '9' := by
  show (c.isAlpha || c.isDigit) = true ↔ _
  rw [Bool.or_eq_true, isAlpha_iff, Line.isDigit_iff, or_assoc]

theorem isScheme_iff_isSchemeName : isScheme scheme ↔ IsSchemeName scheme := by
  cases scheme with
  | nil => exact ⟨nofun, nofun⟩
  | cons c rest =>
    have chars : (rest.all fun c => c.isAlphanum || c == '+' || c == '-' || c == '.') ↔
        ∀ d ∈ rest, 'A' ≤ d ∧ d ≤ 'Z' ∨ 'a' ≤ d ∧ d ≤ 'z' ∨ '0' ≤ d ∧ d ≤ '9' ∨
          d = '+' ∨ d = '-' ∨ d = '.' := by
      simp [isAlphanum_iff, or_assoc]
    rw [isScheme, Bool.and_eq_true, isAlpha_iff, chars]
    constructor
    · intro h
      exact .intro h.1 h.2
    · intro named
      cases named with
      | intro first more => exact ⟨first, more⟩

theorem of_mem_of_isScheme {c : Char} (valid : isScheme scheme) (hc : c ∈ scheme) :
    c.isAlphanum || c == '+' || c == '-' || c == '.' := by
  cases scheme with
  | nil => cases hc
  | cons d rest =>
    rw [isScheme, Bool.and_eq_true] at valid
    rcases List.mem_cons.1 hc with rfl | later
    · simp [Char.isAlphanum, valid.1]
    · exact List.all_eq_true.1 valid.2 c later

theorem Parts.isRooted_path {p : Parts} (ends : EndsAuthority p.text) : IsRooted p.path := by
  intro c first
  have head : p.text.head? = some c := by
    simp [text, List.head?_append, Option.mem_def.1 first]
  have found : c ∈ p.path := List.mem_of_head? first
  rcases ends c head with slash | rfl | rfl
  · exact slash
  · exact absurd found p.path_bare.1
  · exact absurd found p.path_bare.2

theorem dropAuthority_of_isRooted (rooted : IsRooted path) : dropAuthority path = path := by
  unfold dropAuthority
  cases found : Split.cutAt [':', '/', '/'] path with
  | none => rfl
  | some parts =>
    -- What stands before the mark would begin with the slash of the path.
    have whole := Split.eq_append_of_cutAt_eq_some found
    have unnamed : ¬ isScheme parts.1 := by
      cases start : parts.1 with
      | nil => exact nofun
      | cons c cs =>
        obtain rfl := rooted c (by rw [whole, start]; rfl)
        simp [isScheme]
    exact if_neg unnamed

theorem dropAuthority_of_colon_not_mem (bare : ':' ∉ path) : dropAuthority path = path := by
  unfold dropAuthority
  cases found : Split.cutAt [':', '/', '/'] path with
  | none => rfl
  | some parts =>
    rw [Split.eq_append_of_cutAt_eq_some found] at bare
    simp at bare

theorem dropAuthority_absolute (named : IsSchemeName scheme) (bare : '/' ∉ authority)
    (rooted : IsRooted path) :
    dropAuthority (absolute scheme authority path) = path := by
  have valid := isScheme_iff_isSchemeName.2 named
  have colonless : ':' ∉ scheme := fun colon => absurd (of_mem_of_isScheme valid colon) (by decide)
  have passed : ∀ c ∈ authority, decide (c ≠ '/') = true := by
    simpa using fun c hc => ne_of_mem_of_not_mem hc bare
  have stopped : path.dropWhile (· ≠ '/') = path := by
    cases path with
    | nil => rfl
    | cons c path => simp [rooted c rfl]
  have cutting := Split.cutAt_append_cons colonless ['/', '/'] (authority ++ path)
  rw [List.cons_append, List.cons_append, List.nil_append] at cutting
  rw [dropAuthority, absolute, cutting]
  dsimp only
  rw [if_pos valid, List.dropWhile_append_of_pos passed, stopped]

/-- The parts of a target with a scheme and an authority in front of it. -/
theorem Parts.exists_absolute (p : Parts) (named : IsSchemeName scheme)
    (bare : ∀ c ∈ authority, c ≠ '/' ∧ c ≠ '?' ∧ c ≠ '#') :
    ∃ q : Parts, q.text = absolute scheme authority p.text ∧
      q.path = absolute scheme authority p.path ∧ q.query = p.query := by
  have valid := isScheme_iff_isSchemeName.2 named
  have absent {c : Char} (unnamed : ¬ (c.isAlphanum || c == '+' || c == '-' || c == '.'))
      (unmarked : c ≠ ':' ∧ c ≠ '/') (outside : c ∉ authority) (missing : c ∉ p.path) :
      c ∉ absolute scheme authority p.path := by
    have before : c ∉ scheme := fun h => unnamed (of_mem_of_isScheme valid h)
    simp [absolute, before, unmarked, outside, missing]
  have path_bare := And.intro
    (absent (by decide) (by decide) (fun h => (bare _ h).2.1 rfl) p.path_bare.1)
    (absent (by decide) (by decide) (fun h => (bare _ h).2.2 rfl) p.path_bare.2)
  exact ⟨⟨_, p.query, p.fragment, path_bare, p.query_bare⟩, by simp [text, absolute], rfl, rfl⟩

/-! ## The main statements -/

/-- A scheme and an authority in front of a target change neither what it is read as, which is the
path of the target, decoded, and its query, nor the key of a request for it. -/
theorem parse_absolute_eq (named : IsSchemeName scheme)
    (bare : ∀ c ∈ authority, c ≠ '/' ∧ c ≠ '?' ∧ c ≠ '#') (ends : EndsAuthority rest) :
    parse (absolute scheme authority rest) = parse rest ∧
      (∃ p : Parts, p.text = rest ∧ parse rest = ⟨Percent.decode p.path, p.query⟩) ∧
      ∀ (b : KeyBuilder) (m : List Char),
        b.key (.ofRequest m (absolute scheme authority rest)) = b.key (.ofRequest m rest) := by
  obtain ⟨p, rfl⟩ := Parts.exists_text_eq rest
  have rooted := Parts.isRooted_path ends
  have origin : parse p.text = ⟨Percent.decode p.path, p.query⟩ := by
    rw [p.parse_text, dropAuthority_of_isRooted rooted]
  have behind : parse (absolute scheme authority p.text) = ⟨Percent.decode p.path, p.query⟩ := by
    obtain ⟨q, whole, path, query⟩ := p.exists_absolute named bare
    have slashless : '/' ∉ authority := fun slash => (bare _ slash).1 rfl
    rw [← whole, q.parse_text, path, query, dropAuthority_absolute named slashless rooted]
  have same := behind.trans origin.symm
  refine ⟨same, ⟨p, rfl, origin⟩, fun b m => ?_⟩
  rw [Event.ofRequest, same]
  rfl

/-- A password and a port in front of a target that names another one in its query. -/
theorem parse_absolute_eq_nested :
    let scheme : List Char := ['h', '2', '+', 'x']
    let authority : List Char := ['u', ':', 'p', '@', 'h', ':', '8']
    let rest : List Char := ['/', 'a', '%', '2', 'F', '?', 'u', '=', 'x', ':', '/', '/', '?', '#', '?']
    IsSchemeName scheme ∧ (∀ c ∈ authority, c ≠ '/' ∧ c ≠ '?' ∧ c ≠ '#') ∧ EndsAuthority rest ∧
      parse (absolute scheme authority rest) =
        ⟨['/', 'a', '/'], some ['u', '=', 'x', ':', '/', '/', '?']⟩ := by
  intro scheme authority rest
  have named : IsSchemeName scheme := isScheme_iff_isSchemeName.1 rfl
  have bare : ∀ c ∈ authority, c ≠ '/' ∧ c ≠ '?' ∧ c ≠ '#' := by simp [authority]
  have ends : EndsAuthority rest := by
    rintro c ⟨⟩
    exact .inl rfl
  exact ⟨named, bare, ends, (parse_absolute_eq named bare ends).1.trans (by decide)⟩

/-- An encoded path is read back whatever it is made of, beside a query that is kept as it stands and
a fragment that is dropped. -/
theorem parse_encodePath (path : List Char) {query : Option (List Char)}
    (bare : ∀ q ∈ query, '#' ∉ q) (fragment : Option (List Char)) :
    parse (Percent.encodePath path ++ query.elim [] ('?' :: ·) ++ fragment.elim [] ('#' :: ·)) =
      ⟨path, query⟩ := by
  have missing {c : Char} (other : c ≠ '%') (risky : ¬ Percent.isPathSafe c) :
      c ∉ Percent.encodePath path := fun found =>
    (Percent.mem_encodePath found).elim other risky
  let p : Parts := ⟨Percent.encodePath path, query, fragment,
    ⟨missing (by decide) (by decide), missing (by decide) (by decide)⟩, bare⟩
  have colonless : ':' ∉ p.path := missing (by decide) (by decide)
  have read := p.parse_text
  rw [dropAuthority_of_colon_not_mem colonless] at read
  exact read.trans (by rw [Percent.decode_encodePath])

/-- A path that looks like an absolute target with a query. -/
theorem parse_encodePath_absolute :
    let path : List Char := ['a', ':', '/', '/', 'é', '?', '%', '2', 'F']
    let query : List Char := ['x', '=', '%', '2', '0', '?']
    (∀ q ∈ some query, '#' ∉ q) ∧
      parse (['a', '%', '3', 'A', '/', '/', '%', 'C', '3', '%', 'A', '9', '%', '3', 'F', '%', '2', '5',
        '2', 'F'] ++ '?' :: query ++ ['#', '?', '#']) = ⟨path, some query⟩ := by
  intro path query
  have bare : ∀ q ∈ some query, '#' ∉ q := by decide
  exact ⟨bare, parse_encodePath path bare (some ['?', '#'])⟩

end RequestKeys.Target
