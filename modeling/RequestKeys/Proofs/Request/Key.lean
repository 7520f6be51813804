import RequestKeys.Proofs.Path.Characters
import RequestKeys.Request.Key

/-!
# What a key tells

Cut at its colons, a key is the method, the stretches between the colons of the sanitized path, and
the values (`Plain.pieces_key`).  A sanitized path has colons of its own, those that begin
placeholders, so a key does not always tell where its path ends: behind the root, a value may be
taken for a placeholder and what follows it (`Shadows`).  Nothing else is lost where method, path
and values have no colon.
-/

namespace RequestKeys.KeyBuilder

open Split (pieces join)

variable {b : KeyBuilder} {e f : Event}

/-- The sanitized path of an event. -/
def path (b : KeyBuilder) (e : Event) : List Char := b.sanitizer.sanitize e.target.path

/-- Nothing that goes into the key of an event has a colon. -/
structure Plain (b : KeyBuilder) (e : Event) : Prop where
  method : ':' ∉ e.method
  path : ':' ∉ e.target.path
  values : ∀ v ∈ b.values e, ':' ∉ v

/-- The key of `e`, whose path is the root, reads as that of `f`, whose path begins with a
placeholder: the first values of `e` are the stretches of the path of `f`. -/
def Shadows (b : KeyBuilder) (e f : Event) : Prop :=
  b.path e = ['/'] ∧
    ∃ rest, b.path f = '/' :: ':' :: rest ∧ b.values e = pieces ':' rest ++ b.values f

/-! ## The pieces of a key -/

theorem pieces_append_flatMap {vs : List (List Char)} (h : ∀ v ∈ vs, ':' ∉ v) (l : List Char) :
    pieces ':' (l ++ vs.flatMap (':' :: ·)) = pieces ':' l ++ vs := by
  induction vs generalizing l with
  | nil => simp
  | cons v vs ih =>
    have rest := ih (fun w hw => h w (List.mem_cons_of_mem _ hw)) (l ++ ':' :: v)
    rw [List.flatMap_cons, ← List.append_assoc, rest, Split.pieces_append_cons,
      Split.pieces_eq_singleton (h v List.mem_cons_self)]
    simp

theorem Plain.pieces_key (h : b.Plain e) :
    pieces ':' (b.key e) = e.method :: (pieces ':' (b.path e) ++ b.values e) := by
  rw [key, Split.pieces_append_cons, Split.pieces_eq_singleton h.method,
    pieces_append_flatMap h.values]
  rfl

theorem Plain.key_eq_iff_pieces (he : b.Plain e) (hf : b.Plain f) :
    b.key e = b.key f ↔ e.method = f.method ∧
      pieces ':' (b.path e) ++ b.values e = pieces ':' (b.path f) ++ b.values f := by
  rw [← (Split.pieces_injective ':').eq_iff, he.pieces_key, hf.pieces_key, List.cons.injEq]

theorem mem_key_iff {c : Char} (colon : c ≠ ':') :
    c ∈ b.key e ↔ c ∈ e.method ∨ c ∈ b.path e ∨ ∃ v ∈ b.values e, c ∈ v := by
  simp [key, path, colon]

/-! ## Where the path ends -/

/-- If one path is the start of another, up to a colon of that, it is the root. -/
theorem Plain.path_eq_root (hf : b.Plain f) (ruleless : b.sanitizer.rules = [])
    {rest : List Char} (split : b.path f = b.path e ++ ':' :: rest) : b.path e = ['/'] := by
  have plain : ':' ∉ Path.reroute b.sanitizer.rules f.target.path := by
    rw [ruleless]
    exact hf.path
  rcases Path.eq_nil_or_getLast?_of_sanitize_eq plain split with nothing | slash
  · exact absurd nothing (Path.isSanitized_sanitize b.sanitizer e.target.path).ne_nil
  · exact Path.sanitize_eq_root slash

/-- The values of `e` go on with what the path of `f` has more: nothing, or all behind the root. -/
theorem Plain.eq_or_shadows (hf : b.Plain f) (ruleless : b.sanitizer.rules = [])
    {more : List (List Char)} (paths : pieces ':' (b.path f) = pieces ':' (b.path e) ++ more)
    (values : b.values e = more ++ b.values f) :
    b.path e = b.path f ∧ b.values e = b.values f ∨ b.Shadows e f := by
  by_cases nonempty : more = []
  · subst nonempty
    rw [List.append_nil] at paths
    exact .inl ⟨(Split.pieces_injective ':' paths).symm, values⟩
  right
  have whole : b.path f = b.path e ++ ':' :: join ':' more := by
    rw [← Split.join_pieces ':' (b.path f), paths,
      Split.join_append (Split.pieces_ne_nil _ _) nonempty, Split.join_pieces]
  have root := hf.path_eq_root ruleless whole
  have colonless : ∀ p ∈ more, ':' ∉ p := fun p hp =>
    Split.not_mem_of_mem_pieces (paths ▸ List.mem_append_right _ hp)
  refine ⟨root, join ':' more, ?_, ?_⟩
  · rw [whole, root]
    rfl
  · rw [Split.pieces_join colonless nonempty, values]

theorem Shadows.pieces_append (h : b.Shadows e f) :
    pieces ':' (b.path e) ++ b.values e = pieces ':' (b.path f) ++ b.values f := by
  obtain ⟨root, rest, behind, values⟩ := h
  have split : pieces ':' (b.path f) = ['/'] :: pieces ':' rest :=
    behind ▸ Split.pieces_append_cons ':' ['/'] rest
  rw [split, root, values]
  rfl

/-- Without rules and without colons in what goes into them, two keys are equal if methods,
sanitized paths and values are, or if one path is the root and the other follows it in the values. -/
theorem key_eq_key_iff (ruleless : b.sanitizer.rules = []) (he : b.Plain e) (hf : b.Plain f) :
    b.key e = b.key f ↔ e.method = f.method ∧
      (b.path e = b.path f ∧ b.values e = b.values f ∨ b.Shadows e f ∨ b.Shadows f e) := by
  rw [he.key_eq_iff_pieces hf]
  refine and_congr_right fun _ => ⟨fun equal => ?_, ?_⟩
  · rcases List.append_eq_append_iff.1 equal with ⟨more, paths, values⟩ | ⟨more, paths, values⟩
    · exact (hf.eq_or_shadows ruleless paths values).imp_right .inl
    · rcases he.eq_or_shadows ruleless paths values with ⟨path, values⟩ | behind
      · exact .inl ⟨path.symm, values.symm⟩
      · exact .inr (.inr behind)
  · rintro (⟨paths, values⟩ | behind | behind)
    · rw [paths, values]
    · exact behind.pieces_append
    · exact behind.pieces_append.symm

/-- Two numbers in paths are not told apart, two values are. -/
theorem key_eq_key_iff_numbers :
    let b : KeyBuilder := ⟨⟨.all, []⟩, ['o', 'p']⟩
    let e : Event := .ofRequest ['G', 'E', 'T'] ['/', '4', '2', '?', 'o', 'p', '=', 'x']
    let f : Event := .ofRequest ['G', 'E', 'T'] ['/', '7', '?', 'o', 'p', '=', 'x']
    let g : Event := .ofRequest ['G', 'E', 'T'] ['/', '7', '?', 'o', 'p', '=', 'y']
    b.sanitizer.rules = [] ∧ b.Plain e ∧ b.Plain f ∧ b.Plain g ∧
      b.key e = b.key f ∧ b.key e ≠ b.key g := by
  intro b e f g
  have he : b.Plain e := ⟨by decide, by decide, by decide⟩
  have hf : b.Plain f := ⟨by decide, by decide, by decide⟩
  have hg : b.Plain g := ⟨by decide, by decide, by decide⟩
  have same : b.path e = b.path f ∧ b.values e = b.values f := by decide
  refine ⟨rfl, he, hf, hg, (key_eq_key_iff rfl he hf).2 ⟨rfl, .inl same⟩, fun equal => ?_⟩
  rcases ((key_eq_key_iff rfl he hg).1 equal).2 with ⟨-, values⟩ | ⟨root, -⟩ | ⟨root, -⟩
  · exact absurd values (by decide)
  · exact absurd root (by decide)
  · exact absurd root (by decide)

/-- An address as the only name of a path, and the name of its kind as the value behind the root. -/
theorem key_of_address_eq_key_of_value :
    let b : KeyBuilder := ⟨⟨.all, []⟩, ['o', 'p']⟩
    let e : Event := .ofRequest ['G', 'E', 'T'] ['/', '1', '0', '.', '0', '.', '0', '.', '1']
    let f : Event := .ofRequest ['G', 'E', 'T'] ['/', '?', 'o', 'p', '=', 'i', 'p']
    b.sanitizer.rules = [] ∧ b.Plain e ∧ b.Plain f ∧ b.key e = b.key f ∧
      b.path e ≠ b.path f ∧ b.values e ≠ b.values f := by
  intro b e f
  exact ⟨rfl, ⟨by decide, by decide, by decide⟩, ⟨by decide, by decide, by decide⟩, by decide,
    by decide, by decide⟩

end RequestKeys.KeyBuilder
