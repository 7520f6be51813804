import RequestKeys.Proofs.Path.Rerouting

/-!
# The characters of sanitized paths

Where the characters of a sanitized path come from: the names in it are stretches of the path before
or placeholders, and everything else is points and slashes.
-/

namespace RequestKeys.Path

open Split (pieces join)

/-! ## Names -/

namespace Route

variable {r : Route} {n : List Char}

theorem mem_names_step {e : List Char} (h : n ∈ (r.step e).names) : n ∈ r.names ∨ n = e := by
  unfold step climb descend at h
  split_ifs at h
  · simpa using h
  all_goals first | exact .inl h | exact .inl (List.dropLast_subset _ h)

theorem mem_names_foldl_step {es : List (List Char)} (h : n ∈ (es.foldl step r).names) :
    n ∈ r.names ∨ n ∈ es := by
  induction es generalizing r with
  | nil => exact .inl h
  | cons e es ih =>
    rcases ih h with h | h
    · rcases mem_names_step h with h | rfl
      · exact .inl h
      · exact .inr List.mem_cons_self
    · exact .inr (List.mem_cons_of_mem _ h)

/-- The names of a path are among its elements. -/
theorem mem_pieces_of_mem_names_ofPath {path : List Char} (h : n ∈ (ofPath path).names) :
    n ∈ pieces '/' path := by
  rcases mem_names_foldl_step h with h | h
  · cases h
  · exact h

/-- Only the root is spelled with a slash at its end. -/
theorem spell_eq_of_getLast? (h : r.spell.getLast? = some '/') : r.spell = ['/'] := by
  by_cases root : r.elements = [] ∧ r.rooted = true
  · simp [spell, segments, root, join]
  · obtain ⟨before, last, split⟩ : ∃ before last, r.segments = before ++ [last] :=
      ⟨_, _, (List.dropLast_concat_getLast r.segments_ne_nil).symm⟩
    have ending : r.segments.getLast? = some last := by rw [split, List.getLast?_concat]
    have nonempty : last ≠ [] := by
      unfold segments at ending
      split_ifs at ending with nowhere rooted rooted
      · exact absurd ⟨nowhere, rooted⟩ root
      · cases ending
        decide
      · obtain ⟨e, es, elements⟩ := List.exists_cons_of_ne_nil nowhere
        rw [elements, List.getLast?_cons_cons, ← elements] at ending
        exact ne_nil_of_mem_elements (List.mem_of_getLast? ending)
      · exact ne_nil_of_mem_elements (List.mem_of_getLast? ending)
    rw [spell, split, Split.getLast?_join_concat before nonempty] at h
    have slashless : '/' ∉ last := no_slash_of_mem_segments (split ▸ List.mem_concat_self)
    exact absurd (List.mem_of_getLast? h) slashless

end Route

theorem mem_substituteAll {d : Detection} {n : List Char} {es : List (List Char)}
    (h : n ∈ substituteAll d es) : n ∈ es ∨ ∃ kind : Kind, n = kind.placeholder := by
  induction es with
  | nil => cases h
  | cons e es ih =>
    rw [substituteAll_cons] at h
    rcases List.mem_cons.1 h with rfl | h
    · unfold Detection.substitute
      cases d.classify es.isEmpty e with
      | some kind => exact .inr ⟨kind, rfl⟩
      | none => exact .inl List.mem_cons_self
    · exact (ih h).imp_left (List.mem_cons_of_mem _)

/-! ## Segments and characters -/

/-- A segment of a sanitized path is made of points, or it is a placeholder or a stretch of the path
that the rules lead to. -/
theorem mem_pieces_sanitize {s : Sanitizer} {path segment : List Char}
    (h : segment ∈ pieces '/' (s.sanitize path)) :
    segment = [] ∨ segment = dot ∨ segment = dotDot ∨ (∃ kind : Kind, segment = kind.placeholder) ∨
      segment ∈ pieces '/' (reroute s.rules path) := by
  unfold Sanitizer.sanitize at h
  split_ifs at h
  · simp_all [pieces]
  · rw [clean_eq_spell, join_substituteAll_spell, Route.pieces_spell] at h
    rcases Route.mem_segments h with rfl | rfl | h
    · exact .inl rfl
    · exact .inr (.inl rfl)
    · rcases List.mem_append.1 h with h | h
      · exact .inr (.inr (.inl (List.eq_of_mem_replicate h)))
      · rcases mem_substituteAll h with h | ⟨kind, rfl⟩
        · exact .inr (.inr (.inr (.inr (Route.mem_pieces_of_mem_names_ofPath h))))
        · exact .inr (.inr (.inr (.inl ⟨kind, rfl⟩)))

theorem mem_sanitize {s : Sanitizer} {path : List Char} {c : Char} (h : c ∈ s.sanitize path) :
    c = '/' ∨ c = '.' ∨ (∃ kind : Kind, c ∈ kind.placeholder) ∨ c ∈ reroute s.rules path := by
  rw [← Split.join_pieces '/' (s.sanitize path)] at h
  rcases Split.mem_join h with rfl | ⟨segment, found, hc⟩
  · exact .inl rfl
  · rcases mem_pieces_sanitize found with rfl | rfl | rfl | ⟨kind, rfl⟩ | found
    · cases hc
    · exact .inr (.inl (by simpa [dot] using hc))
    · exact .inr (.inl (by simpa [dotDot] using hc))
    · exact .inr (.inr (.inl ⟨kind, hc⟩))
    · exact .inr (.inr (.inr (Split.mem_of_mem_pieces found hc)))

/-- What a sanitized path has of a character that is in no placeholder, it has from the path or from
a replacement. -/
theorem mem_or_mem_replacement_of_mem_sanitize {s : Sanitizer} {path : List Char} {c : Char}
    (slash : c ≠ '/') (point : c ≠ '.') (placeholder : ∀ kind : Kind, c ∉ kind.placeholder)
    (h : c ∈ s.sanitize path) : c ∈ path ∨ ∃ r ∈ s.rules, c ∈ r.replacement := by
  have routed : c ∈ reroute s.rules path := by
    rcases mem_sanitize h with h | h | ⟨kind, h⟩ | h
    · exact absurd h slash
    · exact absurd h point
    · exact absurd h (placeholder kind)
    · exact h
  rcases refused_or_replaced s.rules path with refused | ⟨_, r, there, replaced, -⟩
  · exact .inl (reroute_eq_self refused ▸ routed)
  · exact .inr ⟨r, List.mem_of_getElem? there, replaced ▸ routed⟩

/-! ## Colons and slashes -/

/-- Where a path has no colon, one in its sanitized form begins a placeholder. -/
theorem eq_nil_or_getLast?_of_sanitize_eq {s : Sanitizer} {path before after : List Char}
    (plain : ':' ∉ reroute s.rules path) (split : s.sanitize path = before ++ ':' :: after) :
    before = [] ∨ before.getLast? = some '/' := by
  rw [← Split.join_pieces '/' (s.sanitize path)] at split
  refine Split.eq_nil_or_getLast?_of_join_eq (by decide) (fun segment found => ?_) split
  rcases mem_pieces_sanitize found with rfl | rfl | rfl | ⟨kind, rfl⟩ | found
  · exact List.not_mem_nil
  · decide
  · decide
  · cases kind <;> decide
  · exact fun colon => plain (Split.mem_of_mem_pieces found (List.mem_of_mem_tail colon))

/-- A sanitized path that ends in a slash is the root. -/
theorem sanitize_eq_root {s : Sanitizer} {path : List Char}
    (h : (s.sanitize path).getLast? = some '/') : s.sanitize path = ['/'] := by
  obtain ⟨r, spelled⟩ := exists_sanitize_eq_spell s path
  rw [spelled] at h ⊢
  exact Route.spell_eq_of_getLast? h

end RequestKeys.Path
