import RequestKeys.Proofs.Path.Route

/-!
# Cleaned paths as they are written

A cleaned path is the root, the directory itself, names behind a slash, or climbs before names, and
every text of these forms is cleaned to itself (`isNormal_clean`).  The forms are those of spelled
routes (`isNormal_iff_exists_spell`), one for each way in which a route can be rooted and have
elements, and climbs are only found where a route is not rooted.
-/

namespace RequestKeys.Path

open Split (pieces join)

/-- The forms of cleaned paths: `/`, `.`, names behind a slash, and climbs before names, with slashes
between the elements. -/
inductive IsNormal : List Char → Prop
  | root : IsNormal ['/']
  | here : IsNormal dot
  | rooted {names : List (List Char)} (some_name : names ≠ []) (isName : ∀ n ∈ names, IsName n) :
    IsNormal ('/' :: join '/' names)
  | relative {ups : Nat} {names : List (List Char)} (some_element : 1 ≤ ups + names.length)
      (isName : ∀ n ∈ names, IsName n) :
    IsNormal (join '/' (List.replicate ups dotDot ++ names))

variable {p q : List Char} {ups : Nat} {names : List (List Char)}

theorem climbs_append_ne_nil_iff :
    List.replicate ups dotDot ++ names ≠ [] ↔ 1 ≤ ups + names.length := by
  rw [← List.length_pos_iff, List.length_append, List.length_replicate]
  exact Iff.rfl

/-! ## Spelled routes -/

namespace Route

variable {r : Route}

theorem spell_of_elements_eq_nil (h : r.elements = []) :
    r.spell = if r.rooted then ['/'] else dot := by
  rw [spell, segments, if_pos h]
  split_ifs <;> rfl

theorem spell_of_elements_ne_nil (h : r.elements ≠ []) :
    r.spell = if r.rooted then '/' :: join '/' r.elements else join '/' r.elements := by
  rw [spell, segments, if_neg h]
  split_ifs
  · rw [Split.join_cons [] h, List.nil_append]
  · rfl

theorem elements_of_rooted (h : r.rooted = true) : r.elements = r.names := by
  rw [elements, r.ups_eq_zero h, List.replicate_zero, List.nil_append]

theorem isNormal_spell (r : Route) : IsNormal r.spell := by
  by_cases nowhere : r.elements = []
  · rw [spell_of_elements_eq_nil nowhere]
    split_ifs
    · exact .root
    · exact .here
  · rw [spell_of_elements_ne_nil nowhere]
    split_ifs with rooted
    · rw [elements_of_rooted rooted] at nowhere ⊢
      exact .rooted nowhere r.isName
    · exact .relative (climbs_append_ne_nil_iff.1 nowhere) r.isName

/-- A rooted route has no climb in it, wherever it leads. -/
theorem dotDot_not_mem_segments (h : r.rooted = true) : dotDot ∉ r.segments := by
  intro climb
  rcases mem_segments climb with empty | one | found
  · exact absurd empty (by decide)
  · exact absurd one (by decide)
  · rw [elements_of_rooted h] at found
    exact (r.isName _ found).ne_dotDot rfl

end Route

theorem isNormal_iff_exists_spell : IsNormal q ↔ ∃ r : Route, r.spell = q := by
  constructor
  · intro normal
    cases normal with
    | root => exact ⟨.start true, rfl⟩
    | here => exact ⟨.start false, rfl⟩
    | @rooted names some_name isName =>
      exact ⟨⟨true, 0, names, isName, fun _ => rfl⟩, Route.spell_of_elements_ne_nil some_name⟩
    | @relative ups names some_element isName =>
      exact ⟨⟨false, ups, names, isName, nofun⟩,
        Route.spell_of_elements_ne_nil (climbs_append_ne_nil_iff.2 some_element)⟩
  · rintro ⟨r, rfl⟩
    exact r.isNormal_spell

theorem clean_eq_self_iff : clean q = q ↔ ∃ r : Route, r.spell = q := by
  constructor
  · intro clean_eq
    exact ⟨Route.ofPath q, by rw [← clean_eq_spell, clean_eq]⟩
  · rintro ⟨r, rfl⟩
    exact clean_spell r

/-! ## Slashes at the ends -/

/-- Elements with slashes between them begin and end as the first and the last of them do. -/
theorem no_slash_at_ends {es : List (List Char)} (some_element : es ≠ [])
    (h : ∀ e ∈ es, e ≠ [] ∧ '/' ∉ e) :
    (join '/' es).head? ≠ some '/' ∧ (join '/' es).getLast? ≠ some '/' := by
  constructor
  · obtain ⟨e, rest, rfl⟩ := List.exists_cons_of_ne_nil some_element
    obtain ⟨nonempty, slashless⟩ := h e List.mem_cons_self
    rw [Split.head?_join_cons nonempty]
    exact fun slash => slashless (List.mem_of_head? slash)
  · obtain ⟨nonempty, slashless⟩ := h (es.getLast some_element) (List.getLast_mem some_element)
    rw [← List.dropLast_concat_getLast some_element, Split.getLast?_join_concat _ nonempty]
    exact fun slash => slashless (List.mem_of_getLast? slash)

theorem no_slash_at_ends_relative (some_element : 1 ≤ ups + names.length)
    (isName : ∀ n ∈ names, IsName n) :
    (join '/' (List.replicate ups dotDot ++ names)).head? ≠ some '/' ∧
      (join '/' (List.replicate ups dotDot ++ names)).getLast? ≠ some '/' := by
  refine no_slash_at_ends (climbs_append_ne_nil_iff.2 some_element) fun e found => ?_
  rcases List.mem_append.1 found with climb | name
  · rw [List.eq_of_mem_replicate climb]
    decide
  · exact ⟨(isName e name).ne_nil, (isName e name).no_slash⟩

/-! ## The main statement -/

/-- A cleaned path has one of the normal forms, which are just the texts that cleaning leaves as they
are, so that cleaning twice is cleaning once.  Elements with slashes between them have no slash at
their ends, a cleaned path is rooted exactly if the path is, and then nothing in it climbs. -/
theorem isNormal_clean (p : List Char) :
    IsNormal (clean p) ∧ (∀ q, clean q = q ↔ IsNormal q) ∧ clean (clean p) = clean p ∧
      (∀ ups names, 1 ≤ ups + names.length → (∀ n ∈ names, IsName n) →
        (join '/' (List.replicate ups dotDot ++ names)).head? ≠ some '/' ∧
          (join '/' (List.replicate ups dotDot ++ names)).getLast? ≠ some '/') ∧
      ((clean p).head? = some '/' ↔ p.head? = some '/') ∧
      ((clean p).head? = some '/' → dotDot ∉ pieces '/' (clean p)) := by
  have rooted : (clean p).head? = some '/' ↔ (Route.ofPath p).rooted = true := by
    rw [clean_eq_spell, Route.head?_spell]
  refine ⟨?_, fun q => ?_, ?_, fun ups names => no_slash_at_ends_relative, ?_, fun slash => ?_⟩
  · rw [clean_eq_spell]
    exact Route.isNormal_spell _
  · rw [clean_eq_self_iff, isNormal_iff_exists_spell]
  · rw [clean_eq_spell p, clean_spell]
  · rw [rooted, Route.rooted_ofPath, decide_eq_true_iff]
  · rw [clean_eq_spell, Route.pieces_spell]
    exact Route.dotDot_not_mem_segments (rooted.1 slash)

end RequestKeys.Path
